import TypedVars.Config.Basic
import TypedVars.Proofs.Text.AnyCase
import TypedVars.Proofs.Text.Trim

/-!
# Normal forms of configurations

A configuration settles on one path (`SettlesOn`): its own, or the one of the environment where its
own is blank, without outer white space; and it may have a format (`HasFormat`), which is named in
any case of its letters, or is the default one where the text is blank.  There is a normal form just
when the backend can do with that path and there is a format, and then it is made of the two
(`AppConfig.normalize_exact`).  A path that is missing is reported before a format that is not known.

A normal form is its own normal form in the same environment.  The environment is asked again only
where it had nothing but white space, or nothing at all, the first time.
-/

namespace TypedVars

/-- The path that a configuration settles on, given the one that it has itself and the one that
stands in for it where that is blank. -/
inductive SettlesOn (given : String) (standIn : Option String) : String → Prop where
  | given {path : String} (htrimmed : Trimmed given.toList path.toList) (hpath : path ≠ "") :
    SettlesOn given standIn path
  | standIn {value path : String} (hblank : ∀ c ∈ given.toList, isBlank c = true)
    (hset : standIn = some value) (htrimmed : Trimmed value.toList path.toList) :
    SettlesOn given standIn path
  | missing (hblank : ∀ c ∈ given.toList, isBlank c = true) (hunset : standIn = none) :
    SettlesOn given standIn ""

lemma SettlesOn.trimmed {given path : String} {standIn : Option String}
    (h : SettlesOn given standIn path) : Trimmed path.toList path.toList := by
  cases h with
  | given htrimmed => exact htrimmed.self
  | standIn _ _ htrimmed => exact htrimmed.self
  | missing => exact trimmed_nil_iff.2 (by simp)

/-- The format that a text stands for. -/
inductive HasFormat (given : String) : String → Prop where
  | default (hblank : ∀ c ∈ given.toList, isBlank c = true) : HasFormat given "compact"
  | named {name : String} {word : List Char} (hname : name = "compact" ∨ name = "json")
    (htrimmed : Trimmed given.toList word) (hcase : InAnyCase name word) : HasFormat given name

lemma trimText_eq_empty_iff {s : String} :
    trimText s = "" ↔ ∀ c ∈ s.toList, isBlank c = true :=
  trimText_eq_iff.trans trimmed_nil_iff

namespace StoreConfig

variable {c : StoreConfig} {env : Environment} {path : String}

/-! ## Paths -/

/-- The path that a configuration settles on is its normal path, and there is no other. -/
lemma settlesOn_iff :
    SettlesOn c.filePath (env.get? "STORE_FILE_PATH") path ↔ c.normalPath env = path := by
  rw [normalPath]
  constructor
  · rintro (⟨htrimmed, hpath⟩ | ⟨hblank, hset, htrimmed⟩ | ⟨hblank, hunset⟩)
    · rw [trimText_eq_iff.2 htrimmed]
      exact if_neg hpath
    · rw [trimText_eq_empty_iff.2 hblank, hset]
      exact trimText_eq_iff.2 htrimmed
    · rw [trimText_eq_empty_iff.2 hblank, hunset]
      rfl
  · rintro rfl
    split
    · next hempty =>
      have hblank := trimText_eq_empty_iff.1 hempty
      cases hset : env.get? "STORE_FILE_PATH" with
      | none => exact .missing hblank rfl
      | some value => exact .standIn hblank rfl (trimText_eq_iff.1 rfl)
    · next hpath => exact .given (trimText_eq_iff.1 rfl) hpath

/-- A normal path stays the normal path of a configuration. -/
lemma normalPath_of_normal (h : c.normalPath env = path) :
    ({ c with filePath := path } : StoreConfig).normalPath env = path := by
  rw [normalPath] at h ⊢
  dsimp only at h ⊢
  split at h
  · subst h
    rw [trimText_trimText]
    split <;> rfl
  · next hpath =>
    subst h
    rw [trimText_trimText, if_neg hpath]

/-- Only the backend of a document needs a path. -/
lemma normalize_of_path (h : c.backend = .memory ∨ c.normalPath env ≠ "") :
    c.normalize env = .ok { c with filePath := c.normalPath env } := by
  rw [normalize]
  refine if_neg fun ⟨hfile, hempty⟩ => h.elim (fun hmemory => ?_) fun hpath => hpath hempty
  rw [hfile] at hmemory
  cases hmemory

lemma normalize_of_no_path (h : ¬(c.backend = .memory ∨ c.normalPath env ≠ "")) :
    c.normalize env = .error .pathMissing := by
  obtain ⟨hbackend, hempty⟩ := not_or.1 h
  have hfile : c.backend = .file := by
    cases hkind : c.backend with
    | memory => exact absurd hkind hbackend
    | file => rfl
  rw [normalize]
  exact if_pos ⟨hfile, not_not.1 hempty⟩

end StoreConfig

namespace LoggingConfig

variable {c : LoggingConfig} {name : String}

/-! ## Formats -/

/-- The two formats have names of plain letters, which no letter of another script can stand for. -/
lemma lowercase_trimText_eq_iff {s name : String} (hname : name = "compact" ∨ name = "json") :
    lowercase (trimText s) = name ↔ ∃ word, Trimmed s.toList word ∧ InAnyCase name word := by
  have hplain : name.toList.all isPlainLetter = true := by
    rcases hname with rfl | rfl <;> rfl
  rw [lowercase_eq_iff hplain, trimText, String.toList_ofList]
  constructor
  · exact fun h => ⟨_, trimmed_trim _, h⟩
  · rintro ⟨word, htrimmed, h⟩
    rwa [htrimmed.trim_eq]

lemma lowercase_trimText_eq_empty_iff {s : String} :
    lowercase (trimText s) = "" ↔ ∀ c ∈ s.toList, isBlank c = true := by
  rw [lowercase_eq_iff rfl, InAnyCase, trimText, String.toList_ofList, ← trimmed_nil_iff,
    ← trim_eq_iff]
  exact List.forall₂_nil_right_iff

lemma hasFormat_iff : HasFormat c.format name ↔
    c.normalFormat = name ∧ (name = "compact" ∨ name = "json") := by
  rw [normalFormat]
  constructor
  · rintro (hblank | ⟨hname, htrimmed, hcase⟩)
    · rw [lowercase_trimText_eq_empty_iff.2 hblank]
      exact ⟨rfl, .inl rfl⟩
    · rw [(lowercase_trimText_eq_iff hname).2 ⟨_, htrimmed, hcase⟩]
      refine ⟨if_neg ?_, hname⟩
      rcases hname with rfl | rfl <;> decide
  · rintro ⟨hformat, hname⟩
    split at hformat
    · next hempty =>
      subst hformat
      exact .default (lowercase_trimText_eq_empty_iff.1 hempty)
    · obtain ⟨word, htrimmed, hcase⟩ := (lowercase_trimText_eq_iff hname).1 hformat
      exact .named hname htrimmed hcase

/-- There is a format where the text is blank or the name of one, in lower case. -/
lemma exists_hasFormat_iff : (∃ name, HasFormat c.format name) ↔
    lowercase (trimText c.format) ∈ ["", "compact", "json"] := by
  simp only [hasFormat_iff, exists_eq_left', List.mem_cons, List.not_mem_nil, or_false]
  rw [normalFormat]
  split
  · next hempty => simp [hempty]
  · next hformat => simp [hformat]

lemma normalize_of_format (h : HasFormat c.format name) : c.normalize = .ok ⟨name⟩ := by
  obtain ⟨hformat, hname⟩ := hasFormat_iff.1 h
  rw [normalize, hformat]
  exact if_pos hname

lemma normalize_of_no_format (h : ¬∃ name, HasFormat c.format name) :
    c.normalize = .error (.formatUnknown (lowercase (trimText c.format))) := by
  have hunknown : ¬(c.normalFormat = "compact" ∨ c.normalFormat = "json") := fun hname =>
    h ⟨_, hasFormat_iff.2 ⟨rfl, hname⟩⟩
  have hformat : c.normalFormat = lowercase (trimText c.format) := by
    rw [normalFormat]
    refine if_neg fun hempty => h ⟨_, .default (lowercase_trimText_eq_empty_iff.1 hempty)⟩
  rw [normalize, ← hformat]
  exact if_neg hunknown

/-- The name of a format stands for that format. -/
lemma hasFormat_name (hname : name = "compact" ∨ name = "json") : HasFormat name name := by
  have hletters : name.toList.all (fun c => !isBlank c) = true := by
    rcases hname with rfl | rfl <;> rfl
  exact .named hname (trimmed_of_not_blank fun c hc => not_blank_of_all hletters hc) (.self name)

end LoggingConfig

namespace AppConfig

/-- What becomes of a configuration that settles on a path. -/
structure NormalizesWith (c : AppConfig) (env : Environment) (path : String) : Prop where
  /-- There is a normal form just when the backend can do with the path and the text of the format
  is blank or names one. -/
  accepted : (∃ c', c.normalize env = .ok c') ↔ (c.store.backend = .memory ∨ path ≠ "") ∧
    lowercase (trimText c.logging.format) ∈ ["", "compact", "json"]
  /-- A path that is missing is reported, whatever the format is. -/
  pathMissing : ¬(c.store.backend = .memory ∨ path ≠ "") → c.normalize env = .error .pathMissing
  /-- Otherwise it is the format that is reported. -/
  formatUnknown : (c.store.backend = .memory ∨ path ≠ "") →
    lowercase (trimText c.logging.format) ∉ ["", "compact", "json"] →
    c.normalize env = .error (.formatUnknown (lowercase (trimText c.logging.format)))
  /-- The normal form has the path and the format, and everything else is as before. -/
  normal : ∀ c', c.normalize env = .ok c' → c'.store = { c.store with filePath := path } ∧
    HasFormat c.logging.format c'.logging.format
  /-- The path has no outer white space. -/
  trimmed : Trimmed path.toList path.toList
  /-- The normal form of the normal form is itself. -/
  settled : ∀ c', c.normalize env = .ok c' → c'.normalize env = .ok c'

variable {c c' : AppConfig} {env : Environment} {path name : String}

/-- The normal form of a path and a format. -/
lemma normalize_of_path_of_format (hpath : c.store.backend = .memory ∨ c.store.normalPath env ≠ "")
    (hformat : HasFormat c.logging.format name) : c.normalize env =
      .ok { store := { c.store with filePath := c.store.normalPath env }, logging := ⟨name⟩ } := by
  rw [normalize, StoreConfig.normalize_of_path hpath, LoggingConfig.normalize_of_format hformat]
  rfl

lemma normalize_of_no_path (hpath : ¬(c.store.backend = .memory ∨ c.store.normalPath env ≠ "")) :
    c.normalize env = .error .pathMissing := by
  rw [normalize, StoreConfig.normalize_of_no_path hpath]
  rfl

lemma normalize_of_path_of_no_format
    (hpath : c.store.backend = .memory ∨ c.store.normalPath env ≠ "")
    (hformat : ¬∃ name, HasFormat c.logging.format name) : c.normalize env =
      .error (.formatUnknown (lowercase (trimText c.logging.format))) := by
  rw [normalize, StoreConfig.normalize_of_path hpath, LoggingConfig.normalize_of_no_format hformat]
  rfl

/-- Whatever has a normal form settles on a path that its backend can do with, and has a format. -/
lemma eq_of_normalize (h : c.normalize env = .ok c') :
    (c.store.backend = .memory ∨ c.store.normalPath env ≠ "") ∧
      HasFormat c.logging.format c'.logging.format ∧
      c'.store = { c.store with filePath := c.store.normalPath env } := by
  by_cases hpath : c.store.backend = .memory ∨ c.store.normalPath env ≠ ""
  · by_cases hformat : ∃ name, HasFormat c.logging.format name
    · obtain ⟨name, hname⟩ := hformat
      rw [normalize_of_path_of_format hpath hname] at h
      cases h
      exact ⟨hpath, hname, rfl⟩
    · rw [normalize_of_path_of_no_format hpath hformat] at h
      cases h
  · rw [normalize_of_no_path hpath] at h
    cases h

/-- A normal form is its own normal form. -/
lemma normalize_of_normal (h : c.normalize env = .ok c') : c'.normalize env = .ok c' := by
  obtain ⟨hpath, hformat, hstore⟩ := eq_of_normalize h
  have hnormal : c'.store.normalPath env = c.store.normalPath env := by
    rw [hstore]
    exact StoreConfig.normalPath_of_normal rfl
  have hpath' : c'.store.backend = .memory ∨ c'.store.normalPath env ≠ "" := by
    rw [hnormal, hstore]
    exact hpath
  have hformat' : HasFormat c'.logging.format c'.logging.format :=
    LoggingConfig.hasFormat_name (LoggingConfig.hasFormat_iff.1 hformat).2
  rw [normalize_of_path_of_format hpath' hformat', hnormal]
  obtain ⟨store, logging⟩ := c'
  obtain rfl : store = _ := hstore
  rfl

theorem normalizesWith (c : AppConfig) (env : Environment) :
    c.NormalizesWith env (c.store.normalPath env) where
  accepted := by
    rw [← LoggingConfig.exists_hasFormat_iff]
    constructor
    · rintro ⟨c', h⟩
      obtain ⟨hpath, hformat, -⟩ := eq_of_normalize h
      exact ⟨hpath, _, hformat⟩
    · rintro ⟨hpath, name, hformat⟩
      exact ⟨_, normalize_of_path_of_format hpath hformat⟩
  pathMissing := normalize_of_no_path
  formatUnknown hpath hformat := by
    rw [← LoggingConfig.exists_hasFormat_iff] at hformat
    exact normalize_of_path_of_no_format hpath hformat
  normal c' h := by
    obtain ⟨-, hformat, hstore⟩ := eq_of_normalize h
    exact ⟨hstore, hformat⟩
  trimmed := (StoreConfig.settlesOn_iff.2 rfl).trimmed
  settled _ := normalize_of_normal

/-- Every configuration settles on one path, and there is a normal form exactly where the backend
can do with that path and the text of the format is blank or names one. -/
theorem normalize_exact (c : AppConfig) (env : Environment) : ∃ path,
    (∀ path', SettlesOn c.store.filePath (env.get? "STORE_FILE_PATH") path' ↔ path' = path) ∧
      c.NormalizesWith env path :=
  ⟨c.store.normalPath env, fun _ => StoreConfig.settlesOn_iff.trans eq_comm, c.normalizesWith env⟩

end AppConfig

end TypedVars
