import TypedVars.Proofs.Amount
import TypedVars.Proofs.Store.Failure
import TypedVars.Proofs.Store.Readers

/-!
# What an increment adds to

An increment finds any text under its variable, or none.  `HasInteger` says which integer that is to
add to, and `LacksInteger` says what there is that has no integer; every stored text is one or the
other (`hasInteger_or_lacksInteger`).  An increment over a backend that does not fail answers the
clamped sum, or the amount alone, and stores the double that is nearest to what it answers
(`Store.increment_total`).
-/

namespace TypedVars

/-! ## The integers of stored texts -/

/-- The integer of a stored text: for a finite number the part of it before the point, for a string
the integer that the string begins with, and either one clamped. -/
inductive HasInteger : Option String → ℤ → Prop where
  | number {body : String} {x : Double} (hnumber : Double.ofChars? (trim body.toList) = some x)
    (hfinite : x.isFinite = true) : HasInteger (some ("n:" ++ body)) (clamp (towardZero x.value))
  | string {body : String} {i : ℤ} (hbody : BeginsWith body i) :
    HasInteger (some ("s:" ++ body)) (clamp i)

/-- What is stored has no integer. -/
inductive LacksInteger : Option String → Prop where
  | absent : LacksInteger none
  | empty : LacksInteger (some "")
  | nan {body : String} (hnumber : Double.ofChars? (trim body.toList) = some .nan) :
    LacksInteger (some ("n:" ++ body))
  | infinite {body : String} {negative : Bool}
    (hnumber : Double.ofChars? (trim body.toList) = some (.infinite negative)) :
    LacksInteger (some ("n:" ++ body))
  | boolean (b : Bool) : LacksInteger (some (if b then "b:1" else "b:0"))
  | string {body : String} (hbody : ∀ i, ¬BeginsWith body i) : LacksInteger (some ("s:" ++ body))
  | undecodable {raw : String} (hraw : Value.decode raw = .undecodable) : LacksInteger (some raw)

namespace Value

lemma decode_number (body : String) : decode ("n:" ++ body) =
    match Double.ofChars? (trim body.toList) with
    | some x => .value (.number x)
    | none => .undecodable := by
  rw [decode, String.toList_append]
  rfl

lemma decode_string (body : String) : decode ("s:" ++ body) = .value (.string body) :=
  decode_encode (.string body)

end Value

section

variable {raw : Option String} {b : ℤ}

/-- Such an integer is what an increment adds to. -/
lemma HasInteger.integer?_eq (h : HasInteger raw b) :
    (valueOf raw).bind Value.integer? = some b := by
  cases h with
  | @number body x hnumber hfinite =>
    rw [valueOf, Option.bind_some, Value.decode_number, hnumber]
    change x.truncate?.map clamp = some _
    rw [Double.truncate?_eq_towardZero hfinite, Option.map_some]
  | @string body i hbody =>
    rw [valueOf, Option.bind_some, Value.decode_string]
    exact hbody.leadingInt?_eq

lemma LacksInteger.integer?_eq (h : LacksInteger raw) :
    (valueOf raw).bind Value.integer? = none := by
  cases h with
  | absent | empty => rfl
  | boolean b => cases b <;> rfl
  | nan hnumber | infinite hnumber =>
    rw [valueOf, Option.bind_some, Value.decode_number, hnumber]
    rfl
  | @string body hbody =>
    rw [valueOf, Option.bind_some, Value.decode_string]
    change leadingInt? body = none
    by_contra hsome
    obtain ⟨i, hi⟩ := exists_beginsWith hsome
    exact hbody i hi
  | undecodable hraw =>
    rw [valueOf, Option.bind_some, hraw]
    rfl

/-- Whatever is stored has an integer or has none. -/
theorem hasInteger_or_lacksInteger (raw : Option String) :
    (∃ b, HasInteger raw b) ∨ LacksInteger raw := by
  obtain _ | raw := raw
  · exact .inr .absent
  by_cases htag : ['n', ':'] <+: raw.toList
  · obtain ⟨cs, hcs⟩ := htag
    obtain rfl : raw = "n:" ++ String.ofList cs := by
      simp [← String.toList_inj, ← hcs]
    cases hnumber : Double.ofChars? (trim (String.ofList cs).toList) with
    | none => exact .inr (.undecodable (by rw [Value.decode_number, hnumber]))
    | some x =>
      cases x with
      | nan => exact .inr (.nan hnumber)
      | infinite negative => exact .inr (.infinite hnumber)
      | finite negative m s hc => exact .inl ⟨_, .number hnumber rfl⟩
  · -- every other text that is read as a value is the stored form of it
    cases hdecode : Value.decode raw with
    | absent =>
      rw [Value.decode_eq_absent_iff.1 hdecode]
      exact .inr .empty
    | undecodable => exact .inr (.undecodable hdecode)
    | value v =>
      obtain rfl := Value.encode_of_decode hdecode htag
      cases v with
      | number x =>
        rw [Value.toList_encode_number] at htag
        exact absurd (List.prefix_append ['n', ':'] x.chars) htag
      | string body =>
        by_cases hbody : ∃ i, BeginsWith body i
        · obtain ⟨i, hi⟩ := hbody
          exact .inl ⟨_, .string hi⟩
        · exact .inr (.string (not_exists.1 hbody))
      | boolean b => exact .inr (.boolean b)

end

/-! ## The sum -/

lemma Bindings.clamp_total (current : Option Value) {delta : ℤ} (hdelta : clamp delta = delta) :
    clamp (Bindings.total current delta) = Bindings.total current delta := by
  unfold total
  split
  · exact clamp_clamp _
  · exact hdelta

namespace Store

variable {β : Type} [Backend β] [AtomicBackend β] {s : Store β} {var : VarId}

/-- Where nobody uses a lock and the backend does not fail, an increment answers and stores what the
value comes to. -/
lemma increment_of_success (amount : Amount) (hkey : var.key ≠ "") (hunused : s.locks.Unused)
    (hfault : s.fault? (.increment var amount) = none) :
    (s.increment var amount).1 =
        .ok (.total (Bindings.total (valueOf (Backend.stored s.backend var)) amount.delta)) ∧
      ∀ v, Backend.stored (s.increment var amount).2.backend v = if v = var then
        some (Value.number (.ofInt
          (Bindings.total (valueOf (Backend.stored s.backend var)) amount.delta))).encode
        else Backend.stored s.backend v := by
  simp only [fault?, Call.job?, if_neg hkey, Option.or_eq_none_iff] at hfault
  obtain ⟨hread, hwrite⟩ := hfault
  have hfetch := fetch_of_success hread
  rw [hfetch, Except.toOption, Option.bind_some] at hwrite
  obtain ⟨hreply, hbackend⟩ := (locked_alone hkey hunused _).found _ hfetch
  obtain ⟨hwritten, hanswer⟩ :=
    decide_increment (valueOf (Backend.stored s.backend var)) amount.delta
  refine ⟨?_, fun v => ?_⟩
  · rw [increment, hreply, commit_of_success hwrite, hanswer]
  · rw [increment, hbackend, stored_written_of_success hwrite, hwritten,
      (moved_fetch s var).backend, AtomicBackend.stored_get]
    rfl

/-- Whatever is stored under a variable, an increment of it that the backend does not fail answers
the clamped sum of its integer and the amount, and the amount alone where there is no integer.  It
stores the double that is nearest to what it answers, and touches no other variable. -/
theorem increment_total (amount : Amount) (hkey : var.key ≠ "") (hunused : s.locks.Unused)
    (hfault : s.fault? (.increment var amount) = none) :
    ∃ n : ℤ, (s.increment var amount).1 = .ok (.total n) ∧
      (∀ b, HasInteger (Backend.stored s.backend var) b → n = clamp (b + amount.delta)) ∧
      (LacksInteger (Backend.stored s.backend var) → n = amount.delta) ∧
      ((∃ b, HasInteger (Backend.stored s.backend var) b) ∨
        LacksInteger (Backend.stored s.backend var)) ∧
      (Double.ofInt n).IsNearest n ∧
      ∀ v, Backend.stored (s.increment var amount).2.backend v =
        if v = var then some ("n:" ++ (Double.ofInt n).text) else Backend.stored s.backend v := by
  obtain ⟨hreply, hstored⟩ := increment_of_success amount hkey hunused hfault
  refine ⟨_, hreply, fun b hb => ?_, fun hnone => ?_, hasInteger_or_lacksInteger _, ?_, hstored⟩
  · simp only [Bindings.total, hb.integer?_eq]
  · simp only [Bindings.total, hnone.integer?_eq]
  · rw [← Bindings.clamp_total _ amount.clamp_delta]
    exact Double.isNearest_ofInt_clamp _

/-- A store with a text that begins with an integer below the least one, beside one that cannot be
decoded. -/
def farBelow : Store Memory where
  backend.map := (RawMap.empty.set ⟨.global, "n"⟩ "s:\t-99999999999999999999.5").set
    ⟨.global, "m"⟩ "b:"

/-- The sum stays at the least integer, and the text stored for it shows its first digits. -/
theorem increment_total_farBelow :
    farBelow.locks.Unused ∧
      farBelow.fault? (.increment ⟨.global, "n"⟩ (.text "-7 of them")) = none ∧
      HasInteger (some "s:\t-99999999999999999999.5") minInt64 ∧
      (farBelow.increment ⟨.global, "n"⟩ (.text "-7 of them")).1 = .ok (.total minInt64) ∧
      Backend.stored (farBelow.increment ⟨.global, "n"⟩ (.text "-7 of them")).2.backend
        ⟨.global, "n"⟩ = some "n:-9223372036854776000" ∧
      Backend.stored (farBelow.increment ⟨.global, "n"⟩ (.text "-7 of them")).2.backend
        ⟨.global, "m"⟩ = some "b:" := by
  have hbegins : BeginsWith "\t-99999999999999999999.5" (-99999999999999999999) :=
    ⟨['\t'], ['-'], List.replicate 20 '9', ['.', '5'], by decide +kernel,
      List.forall_mem_singleton.2 (by decide), by decide, by decide,
      fun c hc => List.eq_of_mem_replicate hc ▸ rfl, by simp, by decide +kernel⟩
  have hcounts : HasInteger (some "s:\t-99999999999999999999.5") minInt64 := .string hbegins
  have hfault : farBelow.fault? (.increment ⟨.global, "n"⟩ (.text "-7 of them")) = none := by
    decide +kernel
  have hunused : farBelow.locks.Unused := ⟨rfl, rfl⟩
  obtain ⟨n, hreply, hsum, -, -, -, hstored⟩ :=
    increment_total (.text "-7 of them") (by decide) hunused hfault
  have hfound : Backend.stored farBelow.backend ⟨.global, "n"⟩ =
      some "s:\t-99999999999999999999.5" := by
    decide +kernel
  have hn : n = clamp (minInt64 + (Amount.text "-7 of them").delta) := hsum _ (hfound ▸ hcounts)
  have hdelta : clamp (minInt64 + (Amount.text "-7 of them").delta) = minInt64 := by
    decide +kernel
  obtain rfl := hn.trans hdelta
  refine ⟨⟨rfl, rfl⟩, hfault, hcounts, hreply, ?_, ?_⟩
  · rw [hstored, if_pos rfl]
    decide +kernel
  · rw [hstored, if_neg (by decide)]
    decide +kernel

end Store

end TypedVars
