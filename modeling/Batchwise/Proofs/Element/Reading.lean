import Batchwise.Proofs.Element.Grammar

namespace Batchwise

/-! What each reader reads is exactly what the grammar allows in front of the
rest. -/

theorem specialStart_eq_some_iff {script : List Char} {kind : ElementKind} :
    specialStart script = some kind ↔ Starts kind script := by
  constructor
  · intro found
    simp only [specialStart] at found
    split at found <;> cases found
    · exact .literal .single _
    · exact .literal .double _
    · exact .literal .bracket _
    · exact .lineComment _
    · exact .blockComment _
  · intro starts
    cases starts with
    | literal quote rest => cases quote <;> rfl
    | lineComment rest => rfl
    | blockComment rest => rfl

theorem specialStart_eq_none_iff {script : List Char} :
    specialStart script = none ↔ ∀ kind, ¬ Starts kind script := by
  rw [Option.eq_none_iff_forall_ne_some]
  exact forall_congr' fun kind => not_congr specialStart_eq_some_iff

/-! ## Line terminators -/

theorem lineTerminator?_eq_some_iff {script terminator rest : List Char} :
    lineTerminator? script = some (terminator, rest) ↔
      script = terminator ++ rest ∧ Terminator terminator rest := by
  constructor
  · intro found
    simp only [lineTerminator?] at found
    split at found <;> cases found
    · exact ⟨rfl, .pair _⟩
    · exact ⟨rfl, .lineFeed _⟩
    · rename_i rest notPair
      refine ⟨rfl, .carriageReturn _ ?_⟩
      intro lineFeed
      rcases List.head?_eq_some_iff.mp lineFeed with ⟨behind, equal⟩
      exact notPair behind equal
  · rintro ⟨rfl, terminates⟩
    cases terminates with
    | pair | lineFeed => rfl
    | carriageReturn _ alone =>
      cases rest with
      | nil => rfl
      | cons character behind =>
        have different : character ≠ '\n' := fun equal => alone (congrArg some equal)
        simp only [lineTerminator?]
        split <;> simp_all

theorem lineTerminator?_eq_none_of_ne {character : Char} {rest : List Char}
    (different : character ≠ '\r' ∧ character ≠ '\n') :
    lineTerminator? (character :: rest) = none := by
  simp only [lineTerminator?]
  split <;> simp_all

theorem ne_of_lineTerminator?_eq_none {character : Char} {rest : List Char}
    (notFound : lineTerminator? (character :: rest) = none) :
    character ≠ '\r' ∧ character ≠ '\n' := by
  constructor <;> rintro rfl <;> unfold lineTerminator? at notFound <;>
    split at notFound <;> simp_all

theorem Terminator.ne_nil {terminator rest : List Char}
    (terminates : Terminator terminator rest) : terminator ≠ [] := by
  cases terminates <;> exact List.cons_ne_nil _ _

@[simp] theorem unbroken_nil : Unbroken [] := by simp [Unbroken]

@[simp] theorem unbroken_cons {character : Char} {text : List Char} :
    Unbroken (character :: text) ↔
      (character ≠ '\r' ∧ character ≠ '\n') ∧ Unbroken text :=
  List.forall_mem_cons

theorem restOfLine_eq_iff {script text rest : List Char} :
    restOfLine script = (text, rest) ↔ script = text ++ rest ∧ EndsLine text rest := by
  constructor
  · intro found
    induction script generalizing text with
    | nil =>
      cases found
      exact ⟨rfl, [], [], rfl, unbroken_nil, .inr ⟨rfl, rfl⟩⟩
    | cons character behind induction =>
      rw [restOfLine] at found
      split at found
      · rename_i split terminated
        subst found
        rcases lineTerminator?_eq_some_iff.mp terminated with ⟨equal, terminates⟩
        exact ⟨equal, [], text, rfl, unbroken_nil, .inl terminates⟩
      · rename_i notFound
        cases found
        rcases induction rfl with ⟨equal, body, ending, split, unbroken, ends⟩
        refine ⟨congrArg _ equal, character :: body, ending, congrArg _ split, ?_, ends⟩
        exact unbroken_cons.mpr ⟨ne_of_lineTerminator?_eq_none notFound, unbroken⟩
  · rintro ⟨rfl, body, ending, rfl, unbroken, ends⟩
    induction body with
    | nil =>
      rcases ends with terminates | ⟨rfl, rfl⟩
      · have found := lineTerminator?_eq_some_iff.mpr ⟨rfl, terminates⟩
        cases ending with
        | nil => exact absurd rfl terminates.ne_nil
        | cons character behind =>
          rw [List.nil_append, List.cons_append] at *
          simp only [restOfLine, found]
      · rfl
    | cons character body induction =>
      rcases unbroken_cons.mp unbroken with ⟨different, unbroken⟩
      simp only [List.cons_append, restOfLine, lineTerminator?_eq_none_of_ne different]
      rw [induction unbroken]

/-! ## Block comments

A front of the script that closes the open comments falls apart as the reader
takes it: first a delimiter or a character that begins none, then a front of what
is behind it. -/

private theorem closedAt_pair {depth inner : Int} {first second : Char}
    {rest text : List Char} (opened : depth ≠ 0)
    (step : ∀ behind, nesting depth (first :: second :: behind) = nesting inner behind)
    (single : nesting depth [first] = depth) :
    ClosedAt depth (first :: second :: rest) text ↔
      ∃ behind, text = first :: second :: behind ∧ ClosedAt inner rest behind := by
  constructor
  · rintro ⟨isPrefix, closed⟩
    cases text with
    | nil => exact absurd closed opened
    | cons head tail =>
      rcases List.cons_prefix_cons.mp isPrefix with ⟨rfl, tailPrefix⟩
      cases tail with
      | nil => exact absurd (single.symm.trans closed) opened
      | cons next behind =>
        rcases List.cons_prefix_cons.mp tailPrefix with ⟨rfl, behindPrefix⟩
        exact ⟨behind, rfl, behindPrefix, (step behind).symm.trans closed⟩
  · rintro ⟨behind, rfl, isPrefix, closed⟩
    refine ⟨?_, (step behind).trans closed⟩
    exact List.cons_prefix_cons.mpr ⟨rfl, List.cons_prefix_cons.mpr ⟨rfl, isPrefix⟩⟩

private theorem closedAt_single {depth : Int} {character : Char} {rest text : List Char}
    (opened : depth ≠ 0)
    (step : ∀ behind, behind <+: rest →
      nesting depth (character :: behind) = nesting depth behind) :
    ClosedAt depth (character :: rest) text ↔
      ∃ behind, text = character :: behind ∧ ClosedAt depth rest behind := by
  constructor
  · rintro ⟨isPrefix, closed⟩
    cases text with
    | nil => exact absurd closed opened
    | cons head behind =>
      rcases List.cons_prefix_cons.mp isPrefix with ⟨rfl, behindPrefix⟩
      exact ⟨behind, rfl, behindPrefix, (step behind behindPrefix).symm.trans closed⟩
  · rintro ⟨behind, rfl, isPrefix, closed⟩
    exact ⟨List.cons_prefix_cons.mpr ⟨rfl, isPrefix⟩, (step behind isPrefix).trans closed⟩

theorem nesting_cons {depth : Int} {character : Char} {rest behind : List Char}
    (noCloser : ∀ after, character = '*' → rest ≠ '/' :: after)
    (noOpener : ∀ after, character = '/' → rest ≠ '*' :: after)
    (isPrefix : behind <+: rest) :
    nesting depth (character :: behind) = nesting depth behind := by
  rcases isPrefix with ⟨after, rfl⟩
  rw [nesting]
  · rintro tail rfl rfl
    exact noCloser _ rfl rfl
  · rintro tail rfl rfl
    exact noOpener _ rfl rfl

/-- A reader's answer: the shortest front of the script that closes all comments,
unless there is no such front. -/
def AnswersComment (depth : Int) (script : List Char) :
    Option (List Char × List Char) → Prop
  | some (text, rest) => script = text ++ rest ∧ Closes depth text rest
  | none => ∀ text, ¬ ClosedAt depth script text

private theorem AnswersComment.behind {depth inner : Int} {rest : List Char}
    {found : Option (List Char × List Char)} (answers : AnswersComment inner rest found)
    (lead : List Char)
    (fronts : ∀ text, ClosedAt depth (lead ++ rest) text ↔
      ∃ behind, text = lead ++ behind ∧ ClosedAt inner rest behind) :
    AnswersComment depth (lead ++ rest)
      (found.map fun split => (lead ++ split.1, split.2)) := by
  cases found with
  | none =>
    intro text closed
    rcases (fronts text).mp closed with ⟨behind, _, closed⟩
    exact answers behind closed
  | some split =>
    rcases split with ⟨text, after⟩
    rcases answers with ⟨rfl, closed, shortest⟩
    rw [Option.map_some, AnswersComment, Closes, List.append_assoc]
    refine ⟨rfl, (fronts _).mpr ⟨text, rfl, closed⟩, ?_⟩
    intro other closedOther
    rcases (fronts other).mp closedOther with ⟨behind, rfl, closedBehind⟩
    have shorter := shortest behind closedBehind
    simp only [List.length_append]
    omega

theorem restOfComment_answers (depth : Nat) (script : List Char) :
    AnswersComment depth script (restOfComment depth script) := by
  fun_induction restOfComment depth script with
  | case1 script => exact ⟨rfl, ⟨List.nil_prefix, rfl⟩, fun _ _ => Nat.zero_le _⟩
  | case2 depth =>
    rintro text ⟨isPrefix, closed⟩
    rw [List.prefix_nil.mp isPrefix, nesting] at closed
    omega
  | case3 depth rest induction =>
    refine induction.behind ['*', '/'] fun text => closedAt_pair (by omega) ?_ rfl
    intro behind
    rw [nesting, Int.natCast_succ, Int.add_sub_cancel]
  | case4 depth rest induction =>
    refine induction.behind ['/', '*'] fun text => closedAt_pair (by omega) ?_ rfl
    intro behind
    rfl
  | case5 depth character rest noCloser noOpener induction =>
    refine induction.behind [character] fun text => closedAt_single (by omega) ?_
    intro behind isPrefix
    exact nesting_cons noCloser noOpener isPrefix

theorem restOfComment_eq_some_iff {depth : Nat} {script text rest : List Char} :
    restOfComment depth script = some (text, rest) ↔
      script = text ++ rest ∧ Closes depth text rest := by
  have answers := restOfComment_answers depth script
  constructor
  · intro found
    rwa [found] at answers
  · rintro ⟨rfl, closed, shortest⟩
    cases found : restOfComment depth (text ++ rest) with
    | none =>
      rw [found] at answers
      exact absurd closed (answers text)
    | some split =>
      rcases split with ⟨other, after⟩
      rw [found] at answers
      rcases answers with ⟨equal, closedOther, shortestOther⟩
      rw [← equal] at closedOther shortestOther
      have sameLength := Nat.le_antisymm (shortest other closedOther)
        (shortestOther text closed)
      rcases List.append_inj equal sameLength with ⟨rfl, rfl⟩
      rfl

/-! ## Literals -/

@[simp] theorem double_nil (closer : Char) : double closer [] = [] := rfl

theorem double_cons_self (closer : Char) (text : List Char) :
    double closer (closer :: text) = closer :: closer :: double closer text := by
  simp [double]

theorem double_cons_of_ne {closer character : Char} (different : character ≠ closer)
    (text : List Char) :
    double closer (character :: text) = character :: double closer text := by
  simp [double, different]

theorem restOfLiteral_eq_some_iff {closer : Char} {script text rest : List Char} :
    restOfLiteral closer script = some (text, rest) ↔
      script = text ++ rest ∧ Delimits closer text rest := by
  constructor
  · intro found
    fun_induction restOfLiteral closer script generalizing text with
    | case1 => cases found
    | case2 =>
      cases found
      exact ⟨rfl, ⟨[], rfl⟩, by simp⟩
    | case3 => cases found
    | case4 behind induction =>
      rcases Option.map_eq_some_iff.mp found with ⟨⟨inner, after⟩, read, equal⟩
      cases equal
      rcases induction read with ⟨rfl, ⟨body, rfl⟩, alone⟩
      exact ⟨rfl, ⟨closer :: body, by rw [double_cons_self]; rfl⟩, alone⟩
    | case5 second behind different =>
      cases found
      exact ⟨rfl, ⟨[], rfl⟩, fun equal => different (Option.some.inj equal)⟩
    | case6 first second behind different induction =>
      rcases Option.map_eq_some_iff.mp found with ⟨⟨inner, after⟩, read, equal⟩
      cases equal
      rcases induction read with ⟨equal, ⟨body, rfl⟩, alone⟩
      refine ⟨congrArg _ equal, ⟨first :: body, ?_⟩, alone⟩
      rw [double_cons_of_ne different]
      rfl
  · rintro ⟨rfl, ⟨body, rfl⟩, alone⟩
    induction body with
    | nil =>
      cases rest with
      | nil => simp [restOfLiteral]
      | cons second behind =>
        have different : second ≠ closer := fun equal => alone (congrArg some equal)
        simp [restOfLiteral, different]
    | cons character body induction =>
      by_cases same : character = closer
      · subst same
        rw [double_cons_self, List.cons_append, List.cons_append, List.cons_append,
          List.cons_append, restOfLiteral, if_pos rfl, if_pos rfl, induction]
        rfl
      · rw [double_cons_of_ne same, List.cons_append, List.cons_append]
        cases equal : double closer body ++ [closer] ++ rest with
        | nil => simp at equal
        | cons second behind =>
          rw [restOfLiteral, if_neg same, ← equal, induction]
          rfl

/-! ## Plain text -/

@[simp] theorem isPlain_nil (rest : List Char) : IsPlain [] rest := by
  intro first second equal nonempty
  exact absurd (List.append_eq_nil_iff.mp equal.symm).2 nonempty

theorem isPlain_cons {character : Char} {text rest : List Char} :
    IsPlain (character :: text) rest ↔
      (∀ kind, ¬ Starts kind (character :: text ++ rest)) ∧ IsPlain text rest := by
  constructor
  · intro plain
    refine ⟨plain [] _ rfl (List.cons_ne_nil _ _), ?_⟩
    intro first second equal
    exact plain (character :: first) second (congrArg _ equal)
  · rintro ⟨notHere, plain⟩ first second equal nonempty
    cases first with
    | nil =>
      rw [List.nil_append] at equal
      subst equal
      exact notHere
    | cons head first =>
      rcases List.cons.inj equal with ⟨-, equal⟩
      exact plain first second equal nonempty

theorem Terminator.isPlain {terminator rest : List Char}
    (terminates : Terminator terminator rest) : IsPlain terminator rest := by
  cases terminates <;>
    simp only [isPlain_cons, ← specialStart_eq_none_iff, isPlain_nil, and_true] <;>
    simp [specialStart]

theorem textRun_eq_iff {script text rest : List Char} {ending : Ending} :
    textRun script = ⟨text, ending, rest⟩ ↔ script = text ++ rest ∧ IsText ending text rest := by
  constructor
  · intro found
    induction script generalizing text with
    | nil =>
      cases found
      exact ⟨rfl, isPlain_nil _, [], [], rfl, unbroken_nil, .endOfScript⟩
    | cons character behind induction =>
      rw [textRun] at found
      split at found
      · rename_i kind special
        cases found
        have starts := specialStart_eq_some_iff.mp special
        exact ⟨rfl, isPlain_nil _, [], [], rfl, unbroken_nil, .before starts⟩
      · rename_i notSpecial
        split at found
        · rename_i terminator after terminated
          cases found
          rcases lineTerminator?_eq_some_iff.mp terminated with ⟨equal, terminates⟩
          exact ⟨equal, terminates.isPlain, [], text, rfl, unbroken_nil, .endOfLine terminates⟩
        · rename_i notTerminated
          cases found
          rcases induction rfl with ⟨equal, plain, body, terminator, split, unbroken, stops⟩
          refine ⟨congrArg _ equal, isPlain_cons.mpr ⟨?_, plain⟩, character :: body,
            terminator, congrArg _ split, ?_, stops⟩
          · rw [List.cons_append, ← equal]
            exact specialStart_eq_none_iff.mp notSpecial
          · exact unbroken_cons.mpr ⟨ne_of_lineTerminator?_eq_none notTerminated, unbroken⟩
  · rintro ⟨rfl, plain, body, terminator, rfl, unbroken, stops⟩
    induction body with
    | nil =>
      cases stops with
      | endOfLine terminates =>
        have terminated := lineTerminator?_eq_some_iff.mpr ⟨rfl, terminates⟩
        cases terminator with
        | nil => exact absurd rfl terminates.ne_nil
        | cons character behind =>
          have notSpecial := specialStart_eq_none_iff.mpr (isPlain_cons.mp plain).1
          rw [List.nil_append, List.cons_append] at *
          simp only [textRun, notSpecial, terminated]
      | endOfScript => rfl
      | before starts =>
        have special := specialStart_eq_some_iff.mpr starts
        cases rest with
        | nil => cases special
        | cons character behind =>
          rw [List.nil_append, List.nil_append]
          simp only [textRun, special]
    | cons character body induction =>
      rcases unbroken_cons.mp unbroken with ⟨different, unbroken⟩
      rcases isPlain_cons.mp plain with ⟨notHere, plain⟩
      have notSpecial : specialStart (character :: (body ++ terminator ++ rest)) = none :=
        specialStart_eq_none_iff.mpr notHere
      have notTerminated : lineTerminator? (character :: (body ++ terminator ++ rest)) = none :=
        lineTerminator?_eq_none_of_ne different
      rw [List.cons_append, List.cons_append]
      simp only [textRun, notSpecial, notTerminated, induction plain unbroken]

end Batchwise
