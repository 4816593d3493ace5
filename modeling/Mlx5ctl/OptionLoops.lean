/-
  The option loops of cap, reg and obj, on an argument vector.

  Each loop runs on what `getopt_long` returns for the option string and the `long_options` of its
  command. Its handlers use `optarg` for some of the options (`Handles`), and the tables of the
  command do not always promise one: where an option is declared `optional_argument`, or has no
  colon in the option string, a word can leave it out (`missing_argument_iff`).
-/
import Mlx5ctl.DevCaps
import Mlx5ctl.QueryObj
import Mlx5ctl.RegDump
import Mlx5ctl.Lib.Getopt

namespace Mlx5ctl

open CString Getopt

variable {σ α : Type}

/-- What the option loop of a command runs on. -/
def optsOf (P : Getopt.Options) (posix : Bool) (argv : List CStr) : List Opt :=
  (getoptLong P posix argv).map fun r => ⟨r.1, r.2⟩

/-- No null pointer is passed on. -/
def NullFree (o : Outcome σ α) : Prop := ∀ w, o ≠ .segv w

/-- The loop gets to a word of the vector, where an option may stand. -/
def Reached (P : Getopt.Options) (posix : Bool) (stops : Ret → Prop) (argv : List CStr)
    (a : CStr) : Prop :=
  ∃ pre post, argv.drop 1 = pre ++ a :: post ∧ Passes P posix stops none pre

/-! ## Loops -/

/-- How the handler of an option ends. -/
def Handled (used : List Char) (stops : Ret → Prop) (r : Ret) : Outcome σ α → Prop
  | .segv _ => Missing used r
  | .exit _ _ => ¬ Missing used r ∧ stops r
  | .ret _ _ => ¬ Missing used r ∧ ¬ stops r

/-- The handlers use the argument of the options `used`, and end the loop at those that `stops`
    holds of. -/
def Handles (step : World σ → α → Opt → Outcome σ α) (used : List Char) (stops : Ret → Prop) :
    Prop :=
  ∀ w a r, Handled used stops r (step w a ⟨r.1, r.2⟩)

theorem optionLoop_nullFree_iff {step : World σ → α → Opt → Outcome σ α} {used : List Char}
    {stops : Ret → Prop} (h : Handles step used stops) (w : World σ) (a : α) (rs : List Ret) :
    NullFree (optionLoop step w a (rs.map fun r => ⟨r.1, r.2⟩)) ↔
      ¬ Meets stops (Missing used) rs := by
  induction rs generalizing w a with
  | nil => simp [optionLoop, NullFree]
  | cons r rs ih =>
      have hr := h w a r
      rw [List.map_cons, optionLoop, meets_cons]
      cases hstep : step w a ⟨r.1, r.2⟩ with
      | ret b v =>
          rw [hstep] at hr
          simp [ih, hr.1, hr.2]
      | exit code v =>
          rw [hstep] at hr
          simp [Outcome.bind, NullFree, hr.1, hr.2]
      | segv v =>
          rw [hstep] at hr
          have hbad : Missing used r := hr
          simp [Outcome.bind, NullFree, hbad]

/-- A loop passes no null pointer on exactly when no word it gets to leaves out an argument that is
    used. -/
theorem loop_nullFree_iff {step : World σ → α → Opt → Outcome σ α} {used : List Char}
    {stops : Ret → Prop} (h : Handles step used stops) (hused : '?' ∉ used) (P : Getopt.Options)
    (posix : Bool) (w : World σ) (a : α) (argv : List CStr) :
    NullFree (optionLoop step w a (optsOf P posix argv)) ↔
      ∀ b, Reached P posix stops argv b → ¬ Bare P stops used b := by
  unfold optsOf getoptLong
  rw [optionLoop_nullFree_iff h, meets_scan_iff P posix stops hused]
  constructor
  · rintro hno b ⟨pre, post, hargv, hpass⟩ hbare
    exact hno ⟨pre, b, post, hargv, hpass, hbare⟩
  · rintro hno ⟨pre, b, post, hargv, hpass, hbare⟩
    exact hno b ⟨pre, post, hargv, hpass⟩ hbare

/-- What comes after a loop, and passes no null pointer on, makes no difference. -/
theorem bind_nullFree_iff {β : Type} (o : Outcome σ α) {f : α → World σ → Outcome σ β}
    (hf : ∀ a w, NullFree (f a w)) : NullFree (o.bind f) ↔ NullFree o := by
  cases o with
  | ret a w => simp [NullFree, show ∀ v, f a w ≠ .segv v from hf a w]
  | exit code w => simp [NullFree, Outcome.bind]
  | segv w => simp [NullFree, Outcome.bind]

/-- The words that leave out an argument, where no spelling is empty or has a '='. -/
theorem bare_words_iff {P : Getopt.Options} {used : List Char} {stops : Ret → Prop}
    (hused : '?' ∉ used) (hnames : ∀ w ∈ bareNames P used, w ≠ [] ∧ '=' ∉ w) (a : CStr) :
    Bare P stops used a ↔ a ∈ (bareNames P used).map (fun w => '-' :: '-' :: w) ∨
      ∃ c cs, c ≠ '-' ∧ a = '-' :: c :: cs ∧ Meets stops (Missing used) (cluster P (c :: cs)).1 := by
  rw [bare_iff P stops hused]
  refine or_congr_left ?_
  rw [List.mem_map]
  constructor
  · rintro ⟨w, hw, -, -, rfl⟩
    exact ⟨w, hw, rfl⟩
  · rintro ⟨w, hw, rfl⟩
    exact ⟨w, hw, (hnames w hw).1, (hnames w hw).2, rfl⟩

/-- Where the letters whose argument is used have a colon, no cluster leaves one out. -/
theorem not_cluster_meets {P : Getopt.Options} {used : List Char} {stops : Ret → Prop}
    (hused : '?' ∉ used) (hstop : stops unknown)
    (hcolon : ∀ c ∈ used, shortOption P c = some .requiredArgument) (cs : CStr) :
    ¬ Meets stops (Missing used) (cluster P cs).1 := by
  rw [cluster_meets_iff P stops hused hstop]
  rintro ⟨pre, c, post, -, -, hc, harg⟩
  simp [hcolon c hc] at harg

/-! ## cap -/

namespace DevCaps

/-- The option string and the `long_options` of `parse_args`. -/
def options : Getopt.Options where
  optstring := "i:m:BHPh"
  longopts :=
    [⟨"id", .requiredArgument, 'i'⟩,
      ⟨"mode", .optionalArgument, 'm'⟩,
      ⟨"bin", .noArgument, 'B'⟩,
      ⟨"hex", .noArgument, 'H'⟩,
      ⟨"pretty", .noArgument, 'P'⟩,
      ⟨"help", .noArgument, 'h'⟩]

/-- The options whose argument is used. -/
def used : List Char := ['i', 'm']

/-- The options that end the loop: a mode that is neither "max" nor "cur", and those that are not
    accepted, or ask for help. -/
def Stops (r : Ret) : Prop :=
  r.1 ∉ ['i', 'm', 'B', 'H', 'P'] ∨ r.1 = 'm' ∧ r.2 ≠ some "max".toList ∧ r.2 ≠ some "cur".toList

/-- "--mode" without its value, and what abbreviates it. -/
def bareWords : List CStr := ["--m", "--mo", "--mod", "--mode"].map String.toList

theorem parseOption_handles : Handles (parseOption (σ := σ)) used Stops := by
  rintro w a ⟨c, s⟩
  unfold parseOption
  cases s with
  | none => split <;> simp_all [Handled, Missing, used, Stops]
  | some s =>
      split
      case h_4 => split_ifs <;> simp_all [Handled, Missing, used, Stops]
      all_goals simp_all [Handled, Missing, used, Stops]

theorem shortOption_used : ∀ c ∈ used, shortOption options c = some .requiredArgument := by
  intro c hc
  simp only [used, List.mem_cons, List.not_mem_nil, or_false] at hc
  rcases hc with rfl | rfl <;> simp [shortOption, options]

theorem bare_iff_bareWords (a : CStr) : Bare options Stops used a ↔ a ∈ bareWords := by
  have hnames : ∀ w ∈ bareNames options used, w ≠ [] ∧ '=' ∉ w := by
    simp [bareNames, options, used, longOption]
  have hwords : (bareNames options used).map (fun w => '-' :: '-' :: w) = bareWords := by
    simp [bareNames, options, used, longOption, bareWords]
  rw [bare_words_iff (by decide) hnames, hwords]
  refine or_iff_left ?_
  rintro ⟨c, cs, -, -, hmeets⟩
  exact not_cluster_meets (by decide) (by simp [Stops, unknown]) shortOption_used _ hmeets

end DevCaps

/-! ## reg -/

namespace RegDump

/-- The option string and the `long_options` of `parse_args`. -/
def options : Getopt.Options where
  optstring := "i:p:a:BHPh"
  longopts :=
    [⟨"id", .requiredArgument, 'i'⟩,
      ⟨"port", .optionalArgument, 'p'⟩,
      ⟨"argument", .requiredArgument, 'a'⟩,
      ⟨"bin", .noArgument, 'B'⟩,
      ⟨"hex", .noArgument, 'H'⟩,
      ⟨"pretty", .noArgument, 'P'⟩,
      ⟨"help", .noArgument, 'h'⟩]

/-- The options whose argument is used. -/
def used : List Char := ['i', 'p', 'a']

/-- The options that end the loop: those that are not accepted, or ask for help. -/
def Stops (r : Ret) : Prop := r.1 ∉ ['i', 'p', 'a', 'B', 'H', 'P']

/-- "--port" without its value, and what abbreviates it; "--p" may be "--pretty". -/
def bareWords : List CStr := ["--po", "--por", "--port"].map String.toList

theorem parseOption_handles : Handles (parseOption (σ := σ)) used Stops := by
  rintro w a ⟨c, s⟩
  unfold parseOption
  cases s with
  | none => split <;> simp_all [Handled, Missing, used, Stops]
  | some s => split <;> simp_all [Handled, Missing, used, Stops]

theorem shortOption_used : ∀ c ∈ used, shortOption options c = some .requiredArgument := by
  intro c hc
  simp only [used, List.mem_cons, List.not_mem_nil, or_false] at hc
  rcases hc with rfl | rfl | rfl <;> simp [shortOption, options]

theorem bare_iff_bareWords (a : CStr) : Bare options Stops used a ↔ a ∈ bareWords := by
  have hnames : ∀ w ∈ bareNames options used, w ≠ [] ∧ '=' ∉ w := by
    simp [bareNames, options, used, longOption]
  have hwords : (bareNames options used).map (fun w => '-' :: '-' :: w) = bareWords := by
    simp [bareNames, options, used, longOption, bareWords]
  rw [bare_words_iff (by decide) hnames, hwords]
  refine or_iff_left ?_
  rintro ⟨c, cs, -, -, hmeets⟩
  exact not_cluster_meets (by decide) (by simp [Stops, unknown]) shortOption_used _ hmeets

end RegDump

/-! ## obj -/

namespace QueryObj

/-- The option string and the `long_options` of `parse_args`. -/
def options : Getopt.Options where
  optstring := "io:Bh"
  longopts :=
    [⟨"id", .optionalArgument, 'i'⟩,
      ⟨"op_mod", .optionalArgument, 'o'⟩,
      ⟨"bin", .noArgument, 'B'⟩,
      ⟨"help", .noArgument, 'h'⟩]

/-- The options whose argument is used. -/
def used : List Char := ['i', 'o']

/-- The options that end the loop: those that are not accepted, or ask for help. -/
def Stops (r : Ret) : Prop := r.1 ∉ ['i', 'o', 'B']

/-- "--id" and "--op_mod" without their values, and what abbreviates them. -/
def bareWords : List CStr :=
  ["--i", "--id", "--o", "--op", "--op_", "--op_m", "--op_mo", "--op_mod"].map String.toList

/-- A cluster with an "i", behind any number of "B": the letter takes no argument. -/
def ShortId (a : CStr) : Prop := ∃ n post, a = '-' :: (List.replicate n 'B' ++ 'i' :: post)

theorem parseOption_handles : Handles (parseOption (σ := σ)) used Stops := by
  rintro w a ⟨c, s⟩
  unfold parseOption
  cases s with
  | none => split <;> simp_all [Handled, Missing, used, Stops]
  | some s => split <;> simp_all [Handled, Missing, used, Stops]

theorem cluster_meets_iff_shortId (cs : CStr) :
    Meets Stops (Missing used) (cluster options cs).1 ↔ ShortId ('-' :: cs) := by
  have hi : shortOption options 'i' = some .noArgument := by
    simp [shortOption, options]
  have ho : shortOption options 'o' = some .requiredArgument := by
    simp [shortOption, options]
  have hB : shortOption options 'B' = some .noArgument := by
    simp [shortOption, options]
  rw [cluster_meets_iff options Stops (by decide) (by simp [Stops, unknown])]
  constructor
  · rintro ⟨pre, c, post, rfl, hpre, hc, harg⟩
    have hc : c = 'i' := by
      simp only [used, List.mem_cons, List.not_mem_nil, or_false] at hc
      rcases hc with rfl | rfl
      · rfl
      · simp [ho] at harg
    have hall : ∀ d ∈ pre, d = 'B' := by
      intro d hd
      obtain ⟨hd, -, hgo⟩ := hpre d hd
      simp_all [Stops, used]
    exact ⟨pre.length, post, by rw [← List.eq_replicate_of_mem hall, hc]⟩
  · rintro ⟨n, post, h⟩
    refine ⟨List.replicate n 'B', 'i', post, List.cons.inj h |>.2, ?_, by decide, .inl hi⟩
    intro d hd
    rw [List.eq_of_mem_replicate hd]
    exact ⟨by decide, hB, by simp [Stops]⟩

theorem bare_iff_bareWords (a : CStr) :
    Bare options Stops used a ↔ a ∈ bareWords ∨ ShortId a := by
  have hnames : ∀ w ∈ bareNames options used, w ≠ [] ∧ '=' ∉ w := by
    simp [bareNames, options, used, longOption]
  have hwords : (bareNames options used).map (fun w => '-' :: '-' :: w) = bareWords := by
    simp [bareNames, options, used, longOption, bareWords]
  rw [bare_words_iff (by decide) hnames, hwords]
  refine or_congr_right ?_
  simp only [cluster_meets_iff_shortId]
  constructor
  · rintro ⟨c, cs, -, rfl, h⟩
    exact h
  · rintro ⟨n, post, rfl⟩
    cases n with
    | zero => exact ⟨'i', post, by decide, rfl, 0, post, rfl⟩
    | succ n => exact ⟨'B', _, by decide, rfl, n + 1, post, rfl⟩

end QueryObj

/-! ## The three commands -/

/-- No loop passes a null pointer on exactly when it gets to no word that leaves out an argument:
    for cap "--mode" without a value, for reg "--port", for obj "--id", "--op_mod" and the letter
    "i". -/
theorem missing_argument_iff (posix : Bool) (w : World σ) (argv : List CStr) :
    (NullFree (DevCaps.parseArgs w (optsOf DevCaps.options posix argv)) ↔
      ∀ a, Reached DevCaps.options posix DevCaps.Stops argv a → a ∉ DevCaps.bareWords) ∧
    (NullFree (RegDump.parseArgs w (optsOf RegDump.options posix argv)) ↔
      ∀ a, Reached RegDump.options posix RegDump.Stops argv a → a ∉ RegDump.bareWords) ∧
    (NullFree (QueryObj.parseArgs w argv[1]? (optsOf QueryObj.options posix argv)) ↔
      ∀ a, Reached QueryObj.options posix QueryObj.Stops argv a →
        a ∉ QueryObj.bareWords ∧ ¬ QueryObj.ShortId a) := by
  refine ⟨?_, ?_, ?_⟩
  · unfold DevCaps.parseArgs
    rw [loop_nullFree_iff DevCaps.parseOption_handles (by decide)]
    simp only [DevCaps.bare_iff_bareWords]
  · unfold RegDump.parseArgs
    rw [bind_nullFree_iff, loop_nullFree_iff RegDump.parseOption_handles (by decide)]
    · simp only [RegDump.bare_iff_bareWords]
    · intro args v
      split_ifs <;> simp [NullFree]
  · cases hname : argv[1]? with
    | none =>
        have hdrop : argv.drop 1 = [] :=
          List.drop_eq_nil_of_le (List.getElem?_eq_none_iff.mp hname)
        simp [QueryObj.parseArgs, NullFree, Reached, hdrop]
    | some name =>
        unfold QueryObj.parseArgs
        rw [loop_nullFree_iff QueryObj.parseOption_handles (by decide)]
        simp only [QueryObj.bare_iff_bareWords, not_or]

/-- "cap --mode", "reg --port" and "obj eq -i 5" read a null pointer. -/
theorem argument_left_out :
    ¬ NullFree (DevCaps.parseArgs (⟨(), []⟩ : World Unit)
      (optsOf DevCaps.options false (["cap", "--mode"].map String.toList))) ∧
    ¬ NullFree (RegDump.parseArgs (⟨(), []⟩ : World Unit)
      (optsOf RegDump.options false (["reg", "--port"].map String.toList))) ∧
    ¬ NullFree (QueryObj.parseArgs (⟨(), []⟩ : World Unit) (some "eq".toList)
      (optsOf QueryObj.options false (["obj", "eq", "-i", "5"].map String.toList))) := by
  have hcap : getoptLong DevCaps.options false (["cap", "--mode"].map String.toList) =
      [('m', none)] := by
    simp [getoptLong, scan, word, longWord, longOption, DevCaps.options]
  have hreg : getoptLong RegDump.options false (["reg", "--port"].map String.toList) =
      [('p', none)] := by
    simp [getoptLong, scan, word, longWord, longOption, RegDump.options]
  have hobj : getoptLong QueryObj.options false (["obj", "eq", "-i", "5"].map String.toList) =
      [('i', none)] := by
    simp [getoptLong, scan, word, cluster, shortOption, QueryObj.options]
  unfold optsOf
  rw [hcap, hreg, hobj]
  exact ⟨fun h => h _ rfl, fun h => h _ rfl, fun h => h _ rfl⟩

end Mlx5ctl
