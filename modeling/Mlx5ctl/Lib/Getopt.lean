/-
  getopt_long(3) of the GNU C library: what its calls return on an argument vector.

  A long option may be abbreviated where that is unique. A required argument is what follows '=',
  or the letter in the same word, or it is the next word; an optional one is never the next word.
  Words that are no options are passed over, or end the options where POSIXLY_CORRECT is set; "--"
  ends them always. The caller stops at some of the returns, and `bare_iff` says which words make
  it come to an option without the argument it uses.

  Option strings without '+', '-' or ':' in front are modelled, and long options without a `flag`.
-/
import Mathlib.Data.List.Infix
import Mathlib.Data.List.TakeWhile
import Mlx5ctl.Lib.CString

namespace Getopt

open CString

/-! ## The options of a program -/

/-- `has_arg` -/
inductive HasArg where
  | noArgument
  | requiredArgument
  | optionalArgument
  deriving DecidableEq

/-- `struct option` -/
structure LongOption where
  name : String
  hasArg : HasArg
  val : Char
  deriving DecidableEq

/-- `optstring` and `longopts`. -/
structure Options where
  optstring : String
  longopts : List LongOption

/-- What a call returns: the option, and `optarg`. -/
abbrev Ret := Char × Option CStr

/-- The return on an option that is not accepted. -/
def unknown : Ret := ('?', none)

variable (P : Options)

/-- `has_arg` of a letter, by the colons behind it. -/
def shortOption (c : Char) : Option HasArg :=
  if c = ':' ∨ c = ';' then none
  else
    match P.optstring.toList.dropWhile (· ≠ c) with
    | [] => none
    | _ :: ':' :: ':' :: _ => some .optionalArgument
    | _ :: ':' :: _ => some .requiredArgument
    | _ => some .noArgument

/-- The long option of a name: that name, or the only one it abbreviates. -/
def longOption (name : CStr) : Option LongOption :=
  match P.longopts.find? fun o => o.name.toList = name with
  | some o => some o
  | none =>
      match P.longopts.filter fun o => name.isPrefixOf o.name.toList with
      | [o] => some o
      | _ => none

/-! ## Words -/

/-- What a word makes: the returns, and the option that takes the next word. -/
abbrev Taken := List Ret × Option Char

/-- The word "--name" or "--name=value", from the name on. -/
def longWord (w : CStr) : Taken :=
  match longOption P (w.takeWhile (· ≠ '=')), w.dropWhile (· ≠ '=') with
  | none, _ => ([unknown], none)
  | some o, [] => if o.hasArg = .requiredArgument then ([], some o.val) else ([(o.val, none)], none)
  | some o, _ :: value =>
      if o.hasArg = .noArgument then ([unknown], none) else ([(o.val, some value)], none)

/-- The letters behind a single dash. -/
def cluster : CStr → Taken
  | [] => ([], none)
  | c :: cs =>
      match shortOption P c with
      | none => (unknown :: (cluster cs).1, (cluster cs).2)
      | some .noArgument => ((c, none) :: (cluster cs).1, (cluster cs).2)
      | some .optionalArgument => ([(c, if cs = [] then none else some cs)], none)
      | some .requiredArgument => if cs = [] then ([], some c) else ([(c, some cs)], none)

/-- How a word is read. -/
inductive Word where
  | operand
  | terminator
  | options (t : Taken)

/-- A word where an option may stand. -/
def word : CStr → Word
  | ['-', '-'] => .terminator
  | '-' :: '-' :: w => .options (longWord P w)
  | '-' :: c :: cs => .options (cluster P (c :: cs))
  | _ => .operand

/-- The returns on the words, the first of which `wants` takes. -/
def scan (posix : Bool) : Option Char → List CStr → List Ret
  | none, [] => []
  | some _, [] => [unknown]
  | some c, a :: as => (c, some a) :: scan posix none as
  | none, a :: as =>
      match word P a with
      | .operand => if posix then [] else scan posix none as
      | .terminator => []
      | .options t => t.1 ++ scan posix t.2 as

/-- What the calls of `getopt_long` return before the -1. -/
def getoptLong (posix : Bool) (argv : List CStr) : List Ret := scan P posix none (argv.drop 1)

/-! ## The caller's loop -/

/-- A loop that ends at the returns that `stops` holds of comes to one that `bad` holds of. -/
def Meets {ρ : Type} (stops bad : ρ → Prop) : List ρ → Prop
  | [] => False
  | r :: rs => bad r ∨ ¬ stops r ∧ Meets stops bad rs

section Meets

variable {ρ : Type} (stops bad : ρ → Prop)

@[simp] theorem meets_nil : ¬ Meets stops bad [] := id

@[simp] theorem meets_cons (r : ρ) (rs : List ρ) :
    Meets stops bad (r :: rs) ↔ bad r ∨ ¬ stops r ∧ Meets stops bad rs := Iff.rfl

theorem meets_append (rs ss : List ρ) :
    Meets stops bad (rs ++ ss) ↔
      Meets stops bad rs ∨ (∀ r ∈ rs, ¬ stops r) ∧ Meets stops bad ss := by
  induction rs with
  | nil => simp
  | cons r rs ih =>
      simp only [List.cons_append, meets_cons, ih, List.forall_mem_cons]
      tauto

end Meets

/-- What holds of a place in a list holds of its head, or of a place behind it. -/
theorem exists_split_cons {ρ : Type} (Q : List ρ → ρ → List ρ → Prop) (a : ρ) (as : List ρ) :
    (∃ pre b post, a :: as = pre ++ b :: post ∧ Q pre b post) ↔
      Q [] a as ∨ ∃ pre b post, as = pre ++ b :: post ∧ Q (a :: pre) b post := by
  constructor
  · rintro ⟨pre, b, post, h, hQ⟩
    cases pre with
    | nil =>
        obtain ⟨rfl, rfl⟩ := List.cons.inj h
        exact .inl hQ
    | cons c pre =>
        obtain ⟨rfl, rfl⟩ := List.cons.inj h
        exact .inr ⟨pre, b, post, rfl, hQ⟩
  · rintro (hQ | ⟨pre, b, post, rfl, hQ⟩)
    · exact ⟨[], a, as, rfl, hQ⟩
    · exact ⟨a :: pre, b, post, rfl, hQ⟩

theorem and_exists_split {ρ : Type} (p : Prop) (Q : List ρ → ρ → List ρ → Prop) (as : List ρ) :
    (p ∧ ∃ pre b post, as = pre ++ b :: post ∧ Q pre b post) ↔
      ∃ pre b post, as = pre ++ b :: post ∧ p ∧ Q pre b post := by
  constructor
  · rintro ⟨hp, pre, b, post, h, hQ⟩
    exact ⟨pre, b, post, h, hp, hQ⟩
  · rintro ⟨pre, b, post, h, hp, hQ⟩
    exact ⟨hp, pre, b, post, h, hQ⟩

section Missing

variable (posix : Bool) (stops : Ret → Prop) (used : List Char)

/-- An option whose argument is used came without one. -/
def Missing (r : Ret) : Prop := r.1 ∈ used ∧ r.2 = none

/-- The loop gets through these words, the first of which `wants` takes, and the next word is a new
    one. -/
def Passes : Option Char → List CStr → Prop
  | wants, [] => wants = none
  | some c, a :: as => ¬ stops (c, some a) ∧ Passes none as
  | none, a :: as =>
      match word P a with
      | .operand => posix = false ∧ Passes none as
      | .terminator => False
      | .options t => (∀ r ∈ t.1, ¬ stops r) ∧ Passes t.2 as

/-- A word, where an option may stand, that leaves out an argument that is used. -/
def Bare (a : CStr) : Prop := ∃ t, word P a = .options t ∧ Meets stops (Missing used) t.1

variable {used} (hused : '?' ∉ used)

include hused in
theorem not_missing_unknown : ¬ Missing used unknown := fun h => hused h.1

theorem not_missing_some (c : Char) (s : CStr) : ¬ Missing used (c, some s) := fun h => nomatch h.2

include hused in
/-- The loop comes to a missing argument exactly when it gets to a word that leaves one out. -/
theorem meets_scan_iff (wants : Option Char) (as : List CStr) :
    Meets stops (Missing used) (scan P posix wants as) ↔
      ∃ pre a post, as = pre ++ a :: post ∧ Passes P posix stops wants pre ∧
        Bare P stops used a := by
  induction as generalizing wants with
  | nil => cases wants <;> simp [scan, not_missing_unknown hused]
  | cons a as ih =>
      rw [exists_split_cons fun pre a _ => Passes P posix stops wants pre ∧ Bare P stops used a]
      cases wants with
      | some c =>
          simp only [scan, Passes, meets_cons, not_missing_some, ih, and_exists_split, and_assoc]
          simp
      | none =>
          cases hw : word P a with
          | operand => cases posix <;> simp [scan, Passes, Bare, hw, ih]
          | terminator => simp [scan, Passes, Bare, hw]
          | options t =>
              have hbare : Bare P stops used a ↔ Meets stops (Missing used) t.1 := by
                simp [Bare, hw]
              simp only [scan, Passes, hw, meets_append, ih, hbare, and_exists_split, and_assoc,
                true_and]

/-! ### The words that leave out an argument -/

variable (used) in
/-- The spellings of the long options without the argument that is used. -/
def bareNames : List CStr :=
  (P.longopts.filter fun o => o.val ∈ used ∧ o.hasArg ≠ .requiredArgument).flatMap fun o =>
    o.name.toList.inits.filter fun name => longOption P name = some o

/-- A name stands for an option it is a prefix of. -/
theorem longOption_some {name : CStr} {o : LongOption} (h : longOption P name = some o) :
    o ∈ P.longopts ∧ name <+: o.name.toList := by
  unfold longOption at h
  split at h
  case h_1 o' hfind =>
    cases h
    have hname : o.name.toList = name := by simpa using List.find?_some hfind
    exact ⟨List.mem_of_find?_eq_some hfind, by simp [hname]⟩
  case h_2 =>
    split at h
    case h_1 o' hone =>
      cases h
      have hmem : o ∈ P.longopts.filter fun o => name.isPrefixOf o.name.toList := by simp [hone]
      simpa using List.mem_filter.mp hmem
    case h_2 => cases h

theorem mem_bareNames (name : CStr) :
    name ∈ bareNames P used ↔
      ∃ o, longOption P name = some o ∧ o.val ∈ used ∧ o.hasArg ≠ .requiredArgument := by
  simp only [bareNames, List.mem_flatMap, List.mem_filter, List.mem_inits, decide_eq_true_eq]
  constructor
  · rintro ⟨o, ⟨-, hval, harg⟩, -, ho⟩
    exact ⟨o, ho, hval, harg⟩
  · rintro ⟨o, ho, hval, harg⟩
    obtain ⟨hmem, hprefix⟩ := longOption_some P ho
    exact ⟨o, ⟨hmem, hval, harg⟩, hprefix, ho⟩

include hused in
theorem longWord_meets_iff (w : CStr) :
    Meets stops (Missing used) (longWord P w).1 ↔ '=' ∉ w ∧ w ∈ bareNames P used := by
  rw [mem_bareNames]
  by_cases heq : '=' ∈ w
  · have hdrop : w.dropWhile (· ≠ '=') ≠ [] := by
      intro h
      simpa using List.dropWhile_eq_nil_iff.mp h '=' heq
    obtain ⟨c, value, hvalue⟩ := List.exists_cons_of_ne_nil hdrop
    unfold longWord
    rw [hvalue]
    cases longOption P (w.takeWhile (· ≠ '=')) with
    | none => simp [heq, not_missing_unknown hused]
    | some o =>
        dsimp only
        split_ifs <;> simp [heq, not_missing_unknown hused, not_missing_some]
  · have hall : ∀ c ∈ w, (c ≠ '=' : Bool) = true := by
      intro c hc
      have hne : c ≠ '=' := fun h => heq (h ▸ hc)
      simpa using hne
    unfold longWord
    rw [List.dropWhile_eq_nil_iff.mpr hall, List.takeWhile_eq_self_iff.mpr hall]
    cases longOption P w with
    | none => simp [not_missing_unknown hused]
    | some o =>
        dsimp only
        split_ifs with harg
        · simp [harg]
        · simp [heq, harg, Missing]

include hused in
/-- A cluster leaves out an argument at a letter that makes none, behind letters that have none and
    do not end the loop. -/
theorem cluster_meets_iff (hstop : stops unknown) (cs : CStr) :
    Meets stops (Missing used) (cluster P cs).1 ↔
      ∃ pre c post, cs = pre ++ c :: post ∧
        (∀ d ∈ pre, d ∉ used ∧ shortOption P d = some .noArgument ∧ ¬ stops (d, none)) ∧
        c ∈ used ∧
        (shortOption P c = some .noArgument ∨
          shortOption P c = some .optionalArgument ∧ post = []) := by
  induction cs with
  | nil => simp [cluster]
  | cons c cs ih =>
      rw [exists_split_cons fun pre c post =>
        (∀ d ∈ pre, d ∉ used ∧ shortOption P d = some .noArgument ∧ ¬ stops (d, none)) ∧
          c ∈ used ∧
          (shortOption P c = some .noArgument ∨
            shortOption P c = some .optionalArgument ∧ post = [])]
      unfold cluster
      cases hc : shortOption P c with
      | none => simp [hc, hstop, not_missing_unknown hused]
      | some arg =>
          cases arg with
          | noArgument =>
              simp only [meets_cons, ih, and_exists_split, List.forall_mem_cons, and_assoc]
              by_cases hmem : c ∈ used <;> simp [hc, hmem, Missing]
          | requiredArgument => by_cases hcs : cs = [] <;> simp [hc, hcs, not_missing_some]
          | optionalArgument => by_cases hcs : cs = [] <;> simp [hc, hcs, Missing]

include hused in
/-- The words that leave out an argument. -/
theorem bare_iff (a : CStr) :
    Bare P stops used a ↔
      (∃ w ∈ bareNames P used, w ≠ [] ∧ '=' ∉ w ∧ a = '-' :: '-' :: w) ∨
        ∃ c cs, c ≠ '-' ∧ a = '-' :: c :: cs ∧
          Meets stops (Missing used) (cluster P (c :: cs)).1 := by
  unfold Bare word
  split
  case h_1 => simp
  case h_2 w hw =>
    have hne : w ≠ [] := fun h => hw (by rw [h])
    simp [longWord_meets_iff P stops hused, hne, and_comm]
  case h_3 c cs hlong hdash =>
    have hc : c ≠ '-' := hdash
    simp [hc]
  case h_4 hlong hopt =>
    refine iff_of_false (by simp) ?_
    rintro (⟨w, -, -, -, rfl⟩ | ⟨c, cs, -, rfl, -⟩)
    · exact hlong w rfl
    · exact hopt c cs rfl

end Missing

end Getopt
