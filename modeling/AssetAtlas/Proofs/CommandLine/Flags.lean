import AssetAtlas.CommandLine.Arguments
import AssetAtlas.Proofs.Criteria.RoundTrip

/-!
What the options of a command line say about a criterion, and what a record in a file says. A text is
trimmed and a blank one dropped on both ways, the wildcards are the same, and so is the order in which
the modes are looked at. The main statement is `options_mean_records`.
-/

namespace AssetAtlas

namespace Reading

theorem exists_of_bind_words {x : Except Ending Reading} {rest : List String} {a : Arguments}
    (h : (x >>= fun r => r.words rest) = .ok a) : ∃ r : Reading, r.words rest = .ok a := by
  cases x with
  | error e => exact nomatch h
  | ok r => exact ⟨r, h⟩

/-- Reading goes on behind a word, or behind the value that follows it, or it is finished. -/
theorem words_cons_eq_ok {r : Reading} {word : String} {rest : List String} {a : Arguments}
    (h : r.words (word :: rest) = .ok a) :
    r.finish = .ok a ∨
      ∃ r' : Reading, ∃ rest', rest'.length ≤ rest.length ∧ r'.words rest' = .ok a := by
  have hlater {x : Except Ending Reading} (hx : (x >>= fun r => r.words rest) = .ok a) :
      ∃ r' : Reading, ∃ rest', rest'.length ≤ rest.length ∧ r'.words rest' = .ok a := by
    obtain ⟨r', hr'⟩ := exists_of_bind_words hx
    exact ⟨r', rest, Nat.le_refl _, hr'⟩
  unfold words at h
  dsimp only at h
  split at h
  · split at h
    · exact .inl h
    · exact nomatch h
  · exact nomatch h
  -- long and short names are followed in the same ways
  all_goals
    split at h
    · exact .inr (hlater h)
    · split at h
      · next v rest =>
          split at h
          · obtain ⟨r', hr'⟩ := exists_of_bind_words h
            exact .inr ⟨r', rest, Nat.le_succ _, hr'⟩
          · exact nomatch h
      · exact nomatch h
    · exact .inr (hlater h)
    · exact nomatch h

theorem exists_finish_of_words {r : Reading} {ws : List String} {a : Arguments}
    (h : r.words ws = .ok a) : ∃ r' : Reading, r'.finish = .ok a := by
  induction hn : ws.length using Nat.strongRecOn generalizing r ws with
  | ind n ih =>
      cases ws with
      | nil => exact ⟨r, h⟩
      | cons word rest =>
          rcases words_cons_eq_ok h with hfinish | ⟨r', rest', hlength, hwords⟩
          · exact ⟨r, hfinish⟩
          · rw [List.length_cons] at hn
            exact ih rest'.length (by omega) hwords rfl

theorem isContradictory_of_finish {r : Reading} {a : Arguments} (h : r.finish = .ok a) :
    a.isContradictory = false := by
  unfold finish at h
  split at h
  · exact nomatch h
  · next hcontradictory =>
      obtain rfl := Except.ok.inj h
      simpa using hcontradictory

end Reading

/-! ## Writing a command line -/

def CommandOption.longName : CommandOption → String
  | .value .endpoint => "endpoint"
  | .value .token => "token"
  | .value .config => "config"
  | .value .criteria => "criteria"
  | .value .source => "source"
  | .value .relationship => "relationship"
  | .value .target => "target"
  | .value .severity => "severity"
  | .value .package => "package"
  | .value .cve => "cve"
  | .value .pages => "pages"
  | .value .viewportWidth => "viewport-width"
  | .value .format => "format"
  | .value .output => "output"
  | .flag .single => "single"
  | .flag .bidirectional => "bidirectional"
  | .flag .fullGraph => "full-graph"
  | .flag .internet => "internet"
  | .flag .layout => "layout"
  | .flag .printQuery => "print-query"
  | .flag .help => "help"
  | .flag .version => "version"

theorem CommandOption.ofName?_longName (o : CommandOption) : ofName? o.longName = some o := by
  rcases o with o | f
  · cases o <;> rfl
  · cases f <;> rfl

/-- Something that is said on a command line: an option with its value, or a flag. -/
inductive Setting where
  | value (o : ValueOption) (v : String)
  | flag (f : Flag)

namespace Setting

def option : Setting → CommandOption
  | .value o _ => .value o
  | .flag f => .flag f

/-- The setting as one word; a value is attached. -/
def word : Setting → String
  | .value o v => "--" ++ (CommandOption.value o).longName ++ "=" ++ v
  | .flag f => "--" ++ (CommandOption.flag f).longName

def apply (a : Arguments) : Setting → Option Arguments
  | .value o v => a.set? o v
  | .flag f => (a.raise f).toOption

theorem ofText_flag (f : Flag) :
    CommandWord.ofText (flag f).word = .long (CommandOption.flag f).longName none := by
  cases f <;> decide

theorem ofText_value (o : ValueOption) (v : String) :
    CommandWord.ofText (value o v).word = .long (CommandOption.value o).longName (some v) := by
  have hall : (CommandOption.value o).longName.toList.all (· != '=') = true := by
    cases o <;> rfl
  have hname := List.all_eq_true.mp hall
  have hlist : (value o v).word.toList =
      '-' :: '-' :: ((CommandOption.value o).longName.toList ++ '=' :: v.toList) := by
    simp [word]
  have hvalue : ('=' :: v.toList).takeWhile (· != '=') = [] ∧
      ('=' :: v.toList).dropWhile (· != '=') = '=' :: v.toList := ⟨rfl, rfl⟩
  unfold CommandWord.ofText
  rw [hlist]
  split
  · next h => simp at h
  · next rest _ h =>
      simp only [List.cons.injEq, true_and] at h
      subst h
      rw [List.takeWhile_append_of_pos hname, List.dropWhile_append_of_pos hname, hvalue.1,
        hvalue.2]
      simp
  · next hdash h => exact absurd (List.cons.inj (List.cons.inj h).2).1.symm hdash
  · next hother => exact (hother _ _ rfl).elim

theorem words_value (r : Reading) (o : ValueOption) (v : String) (rest : List String) :
    r.words ((value o v).word :: rest) =
      (r.value o v (value o v).word >>= fun r => r.words rest) := by
  rw [Reading.words]
  simp only [ofText_value, CommandOption.ofName?_longName]

theorem words_flag (r : Reading) (f : Flag) (rest : List String) :
    r.words ((flag f).word :: rest) = (r.flag f (flag f).word >>= fun r => r.words rest) := by
  rw [Reading.words]
  simp only [ofText_flag, CommandOption.ofName?_longName]

theorem note_of_not_mem {r : Reading} {o : CommandOption} (h : o ∉ r.given) (word : String) :
    r.note o word = .ok { r with given := o :: r.given } := by
  rw [Reading.note, if_neg (by simpa using h)]

theorem words_word {r : Reading} {s : Setting} {a : Arguments} (hnew : s.option ∉ r.given)
    (h : s.apply r.arguments = some a) (rest : List String) :
    r.words (s.word :: rest) = Reading.words ⟨a, s.option :: r.given⟩ rest := by
  cases s with
  | value o v =>
      have hnote : r.note (.value o) (value o v).word =
          .ok { r with given := .value o :: r.given } := note_of_not_mem hnew _
      have hset : r.arguments.set? o v = some a := h
      have hvalue : r.value o v (value o v).word = .ok ⟨a, .value o :: r.given⟩ := by
        simp only [Reading.value, hnote, bind, Except.bind, hset]
        rfl
      rw [words_value, hvalue]
      rfl
  | flag f =>
      have hnote : r.note (.flag f) (flag f).word =
          .ok { r with given := .flag f :: r.given } := note_of_not_mem hnew _
      have hraise : r.arguments.raise f = .ok a := by
        have hf : (r.arguments.raise f).toOption = some a := h
        cases hr : r.arguments.raise f with
        | error e => exact nomatch (hr ▸ hf)
        | ok b => rw [hr] at hf; exact congrArg Except.ok (Option.some.inj hf)
      have hflag : r.flag f (flag f).word = .ok ⟨a, .flag f :: r.given⟩ := by
        simp only [Reading.flag, hnote, bind, Except.bind, hraise]
        rfl
      rw [words_flag, hflag]
      rfl

/-- Settings of different options are read one after the other. -/
theorem words_map_word {ss : List Setting} {r : Reading} {a : Arguments}
    (hnodup : (ss.map option).Nodup) (hnew : ∀ s ∈ ss, s.option ∉ r.given)
    (h : ss.foldlM apply r.arguments = some a) :
    r.words (ss.map word) = Reading.finish { arguments := a } := by
  induction ss generalizing r with
  | nil =>
      obtain rfl := Option.some.inj h
      rfl
  | cons s ss ih =>
      rw [List.map_cons, List.nodup_cons] at hnodup
      rw [List.foldlM_cons] at h
      obtain ⟨b, hb, hrest⟩ := Option.bind_eq_some_iff.mp h
      rw [List.map_cons, words_word (hnew s List.mem_cons_self) hb]
      refine ih hnodup.2 (fun t ht => ?_) hrest
      rw [List.mem_cons, not_or]
      constructor
      · rintro hsame
        exact hnodup.1 (hsame ▸ List.mem_map_of_mem ht)
      · exact hnew t (List.mem_cons_of_mem _ ht)

theorem foldlM_value (o : ValueOption) {a : Arguments} (put : Option String → Arguments)
    (hnone : put none = a) (hsome : ∀ v, a.set? o v = some (put (some v))) (s : Option String) :
    (s.map (Setting.value o)).toList.foldlM apply a = some (put s) := by
  cases s with
  | none => exact congrArg some hnone.symm
  | some v =>
      have happly : apply a (value o v) = some (put (some v)) := hsome v
      rw [Option.map_some, Option.toList_some, List.foldlM_cons, happly]
      rfl

theorem foldlM_flag (f : Flag) {a : Arguments} (put : Bool → Arguments) (hfalse : put false = a)
    (htrue : a.raise f = .ok (put true)) (b : Bool) :
    (if b then [flag f] else []).foldlM apply a = some (put b) := by
  cases b with
  | false => exact congrArg some hfalse.symm
  | true =>
      have happly : apply a (flag f) = some (put true) := congrArg Except.toOption htrue
      rw [if_pos rfl, List.foldlM_cons, happly]
      rfl

end Setting

/-! ## Records -/

/-- The record that says what the options for a criterion say. -/
def Arguments.record (a : Arguments) : WireCriterion where
  source := a.source
  relationship := a.relationship
  target := a.target
  severity := a.severity
  package := a.package
  cve := a.cve
  single := a.single
  bidirectional := a.bidirectional
  fullGraph := a.fullGraph

namespace WireCriterion

/-- At most one of the three modes is asked for. -/
structure IsExclusive (w : WireCriterion) : Prop where
  single : w.single = true → w.bidirectional = false ∧ w.fullGraph = false
  bidirectional : w.bidirectional = true → w.fullGraph = false

/-- The arguments that say what a record says, and nothing else. -/
def arguments (w : WireCriterion) : Arguments where
  source := w.source
  relationship := w.relationship
  target := w.target
  severity := w.severity
  package := w.package
  cve := w.cve
  single := w.single
  bidirectional := w.bidirectional
  fullGraph := w.fullGraph

def settings (w : WireCriterion) : List Setting :=
  (w.source.map (.value .source)).toList ++ (w.relationship.map (.value .relationship)).toList ++
    (w.target.map (.value .target)).toList ++ (w.severity.map (.value .severity)).toList ++
    (w.package.map (.value .package)).toList ++ (w.cve.map (.value .cve)).toList ++
    (if w.single then [.flag .single] else []) ++
    (if w.bidirectional then [.flag .bidirectional] else []) ++
    (if w.fullGraph then [.flag .fullGraph] else [])

theorem foldlM_settings (w : WireCriterion) :
    w.settings.foldlM Setting.apply {} = some w.arguments := by
  obtain ⟨source, relationship, target, severity, package, cve, single, both, full⟩ := w
  have hsource := Setting.foldlM_value .source (fun source => { source }) rfl
    (fun _ => rfl) source
  have hrelationship := Setting.foldlM_value .relationship
    (fun relationship => { source, relationship }) rfl (fun _ => rfl) relationship
  have htarget := Setting.foldlM_value .target
    (fun target => { source, relationship, target }) rfl (fun _ => rfl) target
  have hseverity := Setting.foldlM_value .severity
    (fun severity => { source, relationship, target, severity }) rfl (fun _ => rfl) severity
  have hpackage := Setting.foldlM_value .package
    (fun package => { source, relationship, target, severity, package }) rfl (fun _ => rfl) package
  have hcve := Setting.foldlM_value .cve
    (fun cve => { source, relationship, target, severity, package, cve }) rfl (fun _ => rfl) cve
  have hsingle := Setting.foldlM_flag .single
    (fun single => { source, relationship, target, severity, package, cve, single }) rfl rfl single
  have hboth := Setting.foldlM_flag .bidirectional
    (fun both =>
      { source, relationship, target, severity, package, cve, single, bidirectional := both })
    rfl rfl both
  have hfull := Setting.foldlM_flag .fullGraph
    (fun full =>
      { source, relationship, target, severity, package, cve, single, bidirectional := both
        fullGraph := full })
    rfl rfl full
  simp only [settings, List.foldlM_append, Option.bind_eq_bind, Option.bind_some, hsource,
    hrelationship, htarget, hseverity, hpackage, hcve, hsingle, hboth, hfull]
  rfl

theorem nodup_settings (w : WireCriterion) : (w.settings.map Setting.option).Nodup := by
  have hvalue (o : ValueOption) (s : Option String) :
      ((s.map (Setting.value o)).toList.map Setting.option).Sublist [.value o] := by
    cases s with
    | none => exact List.nil_sublist _
    | some v => exact .refl _
  have hflag (f : Flag) (b : Bool) :
      ((if b then [Setting.flag f] else []).map Setting.option).Sublist [.flag f] := by
    cases b with
    | false => exact List.nil_sublist _
    | true => exact .refl _
  have hall : ([.value .source, .value .relationship, .value .target, .value .severity,
      .value .package, .value .cve, .flag .single, .flag .bidirectional, .flag .fullGraph] :
      List CommandOption).Nodup := by
    decide
  refine hall.sublist ?_
  simp only [settings, List.map_append]
  exact ((((((((hvalue _ _).append (hvalue _ _)).append (hvalue _ _)).append (hvalue _ _)).append
    (hvalue _ _)).append (hvalue _ _)).append (hflag _ _)).append (hflag _ _)).append (hflag _ _)

theorem IsExclusive.isContradictory_arguments {w : WireCriterion} (h : w.IsExclusive) :
    w.arguments.isContradictory = false := by
  obtain ⟨hsingle, hbidirectional⟩ := h
  unfold Arguments.isContradictory
  simp only [arguments]
  cases hs : w.single with
  | true =>
      obtain ⟨hb, hf⟩ := hsingle hs
      simp [hb, hf]
  | false =>
      cases hb : w.bidirectional with
      | true => simp [hbidirectional hb]
      | false => simp

theorem IsExclusive.ofWords_settings {w : WireCriterion} (h : w.IsExclusive) :
    Arguments.ofWords (w.settings.map Setting.word) = .ok w.arguments := by
  have hread := Setting.words_map_word (r := {}) w.nodup_settings
    (fun _ _ => List.not_mem_nil) w.foldlM_settings
  rw [Arguments.ofWords, hread, Reading.finish, h.isContradictory_arguments,
    if_neg Bool.false_ne_true]

end WireCriterion

namespace Arguments

theorem isExclusive_record {a : Arguments} (h : a.isContradictory = false) :
    a.record.IsExclusive := by
  unfold isContradictory at h
  constructor
  · intro (hsingle : a.single = true)
    change a.bidirectional = false ∧ a.fullGraph = false
    simp_all
  · intro (hbidirectional : a.bidirectional = true)
    change a.fullGraph = false
    simp_all

/-! ## The criterion -/

theorem given_eq_bind_nonBlank? (s : Option String) : given s = s.bind Text.nonBlank? := by
  cases s with
  | none => rfl
  | some s =>
      rw [given, Option.map_some, Option.filter_some, Option.bind_some, Text.nonBlank?]
      cases (Text.trim s).isEmpty <;> rfl

theorem criterion_record {a : Arguments} (h : a.record.IsExclusive) :
    a.record.criterion = .ok a.criterion := by
  have hmodes : ¬ (a.record.bidirectional && a.record.fullGraph) = true := by
    rintro hboth
    rw [Bool.and_eq_true] at hboth
    exact Bool.false_ne_true ((h.bidirectional hboth.1).symm.trans hboth.2)
  rw [WireCriterion.criterion, if_neg hmodes]
  simp only [criterion, given_eq_bind_nonBlank?]
  rfl

end Arguments

theorem Criteria.ofJson_singleton {j : Json} {c : Criterion} (h : Criterion.ofJson j = .ok c) :
    Criteria.ofJson (.array [j]) = .ok (.single c) := by
  have hread : Criterion.read Draft.format (Draft.ofJson j) = .ok c := h
  change readItems Draft.format [Draft.ofJson j] = _
  rw [readItems, List.mapM_cons, hread]
  rfl

/-- The options of a command line and the record that says the same mean the same criterion, in
whatever format the record is written, and the programs are the same. The records that options can
say are those with at most one mode. -/
theorem options_mean_records :
    (∀ words a, Arguments.ofWords words = .ok a →
      a.record.IsExclusive ∧
        (∀ (σ : Type) (f : TreeFormat σ) s, WireCriterion.read? f s = some a.record →
          Criterion.read f s = .ok a.criterion) ∧
        ∃ cs, Criteria.ofJson (.array [a.record.toJson]) = .ok cs ∧
          ∀ purpose limit showInternet,
            Query.program purpose cs.list limit showInternet =
              Query.program purpose (Criteria.single a.criterion).list limit showInternet) ∧
      ∀ w : WireCriterion, w.IsExclusive →
        ∃ words a, Arguments.ofWords words = .ok a ∧ a.record = w := by
  constructor
  · intro words a h
    obtain ⟨r, hr⟩ := Reading.exists_finish_of_words h
    have hexclusive := Arguments.isExclusive_record (Reading.isContradictory_of_finish hr)
    have hcriterion := Arguments.criterion_record hexclusive
    have hread (σ : Type) (f : TreeFormat σ) (s : σ)
        (hs : WireCriterion.read? f s = some a.record) : Criterion.read f s = .ok a.criterion := by
      rw [Criterion.read, hs]
      exact hcriterion
    refine ⟨hexclusive, hread, .single a.criterion, Criteria.ofJson_singleton ?_, fun _ _ _ => rfl⟩
    exact hread _ _ _ a.record.read?_toJson
  · intro w hw
    exact ⟨_, w.arguments, hw.ofWords_settings, rfl⟩

end AssetAtlas
