import Batchwise.Proofs.Variable.Expansion

namespace Batchwise

/-! A text parted at its references. They are the ones that are met on the way through the
text from the left, where each of them is passed over as a whole. There is one way to part
a text so. Expansion puts values in the places of the references, and looks at nothing but
the text that was there before. -/

structure IsName (name : List Char) : Prop where
  nonempty : name ≠ []
  noParenthesis : ')' ∉ name

def referenceTo (name : List Char) : List Char :=
  '$' :: '(' :: name ++ [')']

def StartsReference (text : List Char) : Prop :=
  ∃ name rest, IsName name ∧ text = referenceTo name ++ rest

/-- No reference starts inside of the text, behind which `rest` stands. -/
def StartsNone (text rest : List Char) : Prop :=
  ∀ front back, text = front ++ back → back ≠ [] → ¬ StartsReference (back ++ rest)

/-- Plain text up to the first reference, and the name of each reference with the plain
text behind it. -/
structure Parting where
  plain : List Char
  references : List (List Char × List Char)

namespace Parting

def names (parting : Parting) : List (List Char) :=
  parting.references.map (·.1)

def substitute (replacement : List Char → List Char)
    (references : List (List Char × List Char)) : List Char :=
  references.flatMap fun reference => replacement reference.1 ++ reference.2

def fill (parting : Parting) (replacement : List Char → List Char) : List Char :=
  parting.plain ++ substitute replacement parting.references

/-- The text is made of these plain texts and references, and no other reference starts in
a plain text. One that would reach from a plain text into what follows counts too. -/
structure Parts (parting : Parting) (text : List Char) : Prop where
  source : parting.fill referenceTo = text
  names : ∀ name ∈ parting.names, IsName name
  first : StartsNone parting.plain (substitute referenceTo parting.references)
  others : ∀ front name plain back, parting.references = front ++ (name, plain) :: back →
    StartsNone plain (substitute referenceTo back)

end Parting

/-! ## Where a reference starts -/

theorem splitAtParenthesis_append {name : List Char} (noParenthesis : ')' ∉ name)
    (rest : List Char) : splitAtParenthesis (name ++ ')' :: rest) = some (name, rest) := by
  induction name with
  | nil => rfl
  | cons character name induction =>
      rcases not_or.mp (mt List.mem_cons.mpr noParenthesis) with ⟨different, behind⟩
      rw [List.cons_append, splitAtParenthesis, induction behind]
      · rfl
      · exact Ne.symm different

theorem noParenthesis_of_splitAtParenthesis {text : List Char}
    {split : List Char × List Char} (found : splitAtParenthesis text = some split) :
    ')' ∉ split.1 := by
  fun_induction splitAtParenthesis text generalizing split with
  | case1 => cases found
  | case2 rest =>
      cases found
      exact List.not_mem_nil
  | case3 character rest different induction =>
      rcases Option.map_eq_some_iff.mp found with ⟨inner, behind, rfl⟩
      intro member
      rcases List.mem_cons.mp member with equal | inside
      · exact different equal.symm
      · exact induction behind inside

theorem reference?_eq_some_iff {text name rest : List Char} :
    reference? text = some (name, rest) ↔
      IsName name ∧ text = referenceTo name ++ rest := by
  constructor
  · intro found
    have source := source_reference? found
    apply And.intro _ source
    rw [source] at found
    unfold reference? at found
    split at found
    · split at found
      · cases found
      · rename_i empty
        constructor
        · intro isEmpty
          subst isEmpty
          exact empty _ found
        · exact noParenthesis_of_splitAtParenthesis found
    · cases found
  · intro starts
    rcases starts with ⟨isName, rfl⟩
    have split := splitAtParenthesis_append isName.noParenthesis rest
    simp only [referenceTo, List.cons_append, List.append_assoc, List.nil_append, reference?,
      split]
    split
    · rename_i empty
      cases empty
      exact absurd rfl isName.nonempty
    · rfl

theorem reference?_eq_none_iff {text : List Char} :
    reference? text = none ↔ ¬ StartsReference text := by
  constructor
  · intro nothing starts
    rcases starts with ⟨name, rest, isName⟩
    cases nothing.symm.trans (reference?_eq_some_iff.mpr isName)
  · intro none
    by_contra something
    rcases Option.ne_none_iff_exists'.mp something with ⟨found, starts⟩
    apply none
    exact ⟨found.1, found.2, reference?_eq_some_iff.mp starts⟩

/-! ## One way to part a text

Taking a character or a reference off the front of a text takes it off the front of its
parting. -/

theorem startsNone_nil (rest : List Char) : StartsNone [] rest := by
  intro front back split nonempty
  exact absurd (List.append_eq_nil_iff.mp split.symm).2 nonempty

theorem startsNone_cons {character : Char} {text rest : List Char} :
    StartsNone (character :: text) rest ↔
      ¬ StartsReference (character :: text ++ rest) ∧ StartsNone text rest := by
  constructor
  · intro none
    constructor
    · exact none [] _ rfl (List.cons_ne_nil _ _)
    · intro front back split
      exact none (character :: front) back (congrArg _ split)
  · intro both front back split nonempty
    rcases both with ⟨notHere, behind⟩
    cases front with
    | nil =>
        rw [List.nil_append] at split
        subst split
        exact notHere
    | cons head front => exact behind front back (List.cons.inj split).2 nonempty

theorem startsReference_referenceTo {name : List Char} (isName : IsName name)
    (rest : List Char) : StartsReference (referenceTo name ++ rest) :=
  ⟨name, rest, isName, rfl⟩

theorem reference?_referenceTo {name : List Char} (isName : IsName name)
    (rest : List Char) : reference? (referenceTo name ++ rest) = some (name, rest) :=
  reference?_eq_some_iff.mpr ⟨isName, rfl⟩

/-- The closing parenthesis tells where a name ends. -/
theorem referenceTo_inj {first second rest behind : List Char} (isName : IsName first)
    (isNameToo : IsName second)
    (same : referenceTo first ++ rest = referenceTo second ++ behind) :
    first = second ∧ rest = behind := by
  have found := reference?_referenceTo isName rest
  rw [same, reference?_referenceTo isNameToo behind] at found
  cases found
  exact ⟨rfl, rfl⟩

namespace Parting

def afterPlain (parting : Parting) (character : Char) : Parting :=
  ⟨character :: parting.plain, parting.references⟩

def afterReference (parting : Parting) (name : List Char) : Parting :=
  ⟨[], (name, parting.plain) :: parting.references⟩

def ofSegments : List Segment → Parting
  | [] => ⟨[], []⟩
  | .plain character :: rest => (ofSegments rest).afterPlain character
  | .reference name :: rest => (ofSegments rest).afterReference name

@[simp] theorem fill_afterReference (parting : Parting) (name : List Char)
    (replacement : List Char → List Char) :
    (parting.afterReference name).fill replacement =
      replacement name ++ parting.fill replacement := by
  simp [fill, afterReference, substitute]

variable {parting : Parting}

theorem parts_nil_iff : parting.Parts [] ↔ parting = ⟨[], []⟩ := by
  constructor
  · intro parts
    rcases parting with ⟨plain, references⟩
    rcases List.append_eq_nil_iff.mp parts.source with ⟨noPlain, noReference⟩
    cases references with
    | nil => exact congrArg (Parting.mk · []) noPlain
    | cons reference rest => cases noReference
  · rintro rfl
    exact ⟨rfl, by simp [Parting.names], startsNone_nil _, by simp⟩

theorem parts_cons_iff {character : Char} {rest : List Char}
    (none : ¬ StartsReference (character :: rest)) :
    parting.Parts (character :: rest) ↔
      ∃ behind : Parting, parting = behind.afterPlain character ∧ behind.Parts rest := by
  constructor
  · intro parts
    rcases parting with ⟨plain, references⟩
    cases plain with
    | nil =>
        exfalso
        cases references with
        | nil => cases parts.source
        | cons reference more =>
            have isName := parts.names reference.1 List.mem_cons_self
            apply none
            rw [← parts.source, fill, substitute, List.flatMap_cons, List.nil_append,
              List.append_assoc]
            exact startsReference_referenceTo isName _
    | cons first plain =>
        rcases List.cons.inj parts.source with ⟨rfl, source⟩
        apply Exists.intro ⟨plain, references⟩
        apply And.intro rfl
        exact ⟨source, parts.names, (startsNone_cons.mp parts.first).2, parts.others⟩
  · rintro ⟨behind, rfl, parts⟩
    have source : (behind.afterPlain character).fill referenceTo = character :: rest :=
      congrArg (character :: ·) parts.source
    constructor
    · exact source
    · exact parts.names
    · rw [← source] at none
      exact startsNone_cons.mpr ⟨none, parts.first⟩
    · exact parts.others

theorem parts_reference_iff {name rest : List Char} (isName : IsName name) :
    parting.Parts (referenceTo name ++ rest) ↔
      ∃ behind : Parting, parting = behind.afterReference name ∧ behind.Parts rest := by
  constructor
  · intro parts
    rcases parting with ⟨plain, references⟩
    have source := parts.source
    cases plain with
    | cons character plain =>
        have notHere := (startsNone_cons.mp parts.first).1
        rw [fill] at source
        rw [source] at notHere
        exact absurd (startsReference_referenceTo isName rest) notHere
    | nil =>
        cases references with
        | nil => cases source
        | cons reference more =>
            rcases reference with ⟨first, plain⟩
            rw [fill, substitute, List.flatMap_cons, List.nil_append, List.append_assoc]
              at source
            have isFirst := parts.names first List.mem_cons_self
            rcases referenceTo_inj isFirst isName source with ⟨rfl, behind⟩
            apply Exists.intro ⟨plain, more⟩
            apply And.intro rfl
            constructor
            · exact behind
            · intro other member
              exact parts.names other (List.mem_cons_of_mem _ member)
            · exact parts.others [] first plain more rfl
            · intro front other text back split
              exact parts.others ((first, plain) :: front) other text back (congrArg _ split)
  · rintro ⟨behind, rfl, parts⟩
    constructor
    · rw [fill_afterReference, parts.source]
    · intro other member
      rcases List.mem_cons.mp member with rfl | inside
      · exact isName
      · exact parts.names other inside
    · exact startsNone_nil _
    · intro front other text back split
      cases front with
      | nil =>
          cases split
          exact parts.first
      | cons head front => exact parts.others front other text back (List.cons.inj split).2

/-- A text is parted in the one way in which its segments are. -/
theorem parts_iff {text : List Char} :
    parting.Parts text ↔ parting = ofSegments (Segment.ofText text) := by
  fun_induction Segment.ofText text generalizing parting with
  | case1 text name rest found induction =>
      rcases reference?_eq_some_iff.mp found with ⟨isName, rfl⟩
      rw [parts_reference_iff isName]
      simp [induction, ofSegments]
  | case2 => exact parts_nil_iff
  | case3 character rest nothing induction =>
      rw [parts_cons_iff (reference?_eq_none_iff.mp nothing)]
      simp [induction, ofSegments]

end Parting

/-! ## What expansion does to a parting -/

def replacement (lookup : List Char → Option (List Char)) (name : List Char) : List Char :=
  (lookup name).getD (referenceTo name)

theorem expand_eq_fill {text : List Char} {parting : Parting} (parts : parting.Parts text)
    (lookup : List Char → Option (List Char)) :
    expand lookup text = parting.fill (replacement lookup) := by
  rw [Parting.parts_iff.mp parts, expand]
  induction Segment.ofText text with
  | nil => rfl
  | cons segment rest induction =>
      rw [List.flatMap_cons, induction]
      cases segment with
      | plain character => rfl
      | reference name =>
          exact ((Parting.ofSegments rest).fill_afterReference name (replacement lookup)).symm

theorem lookups_eq_names {text : List Char} {parting : Parting} (parts : parting.Parts text) :
    lookups text = parting.names := by
  rw [Parting.parts_iff.mp parts, lookups]
  induction Segment.ofText text with
  | nil => rfl
  | cons segment rest induction =>
      cases segment with
      | plain character => exact induction
      | reference name => exact congrArg (name :: ·) induction

/-! ## Look-ups one by one

A look-up can have effects, such as a note of the name. They come about in the order in
which expansion asks for the names. -/

section Effects

variable {m : Type → Type} [Monad m]

def expandSegments (lookup : List Char → m (Option (List Char))) :
    List Segment → m (List Char)
  | [] => pure []
  | .plain character :: rest => do
    let behind ← expandSegments lookup rest
    return character :: behind
  | .reference name :: rest => do
    let value ← lookup name
    let behind ← expandSegments lookup rest
    return value.getD (referenceTo name) ++ behind

/-- Replace each defined reference by its value, with a look-up that has effects. -/
def expandWith (lookup : List Char → m (Option (List Char))) (text : List Char) :
    m (List Char) :=
  expandSegments lookup (Segment.ofText text)

end Effects

def noting (lookup : List Char → Option (List Char)) (name : List Char) :
    StateM (List (List Char)) (Option (List Char)) := fun noted =>
  (lookup name, noted ++ [name])

/-- Expansion asks for the names in `lookups`, each of them once and in this order, and
for no others. -/
theorem expandWith_noting (lookup : List Char → Option (List Char)) (text : List Char)
    (noted : List (List Char)) :
    (expandWith (noting lookup) text).run noted = (expand lookup text, noted ++ lookups text) := by
  rw [expandWith, expand, lookups]
  induction Segment.ofText text generalizing noted with
  | nil => exact congrArg (Prod.mk _) (List.append_nil noted).symm
  | cons segment rest induction =>
      cases segment with
      | plain character =>
          have behind := induction noted
          rw [expandSegments, StateT.run_bind, behind]
          rfl
      | reference name =>
          have behind := induction (noted ++ [name])
          rw [expandSegments, StateT.run_bind]
          change (expandSegments (noting lookup) rest >>= fun expanded =>
            pure ((lookup name).getD (referenceTo name) ++ expanded)).run
              (noted ++ [name]) = _
          rw [StateT.run_bind, behind, List.append_assoc]
          rfl

/-! ## Expansion from the left

Two parentheses hold no name, and without a closing parenthesis there is no name either. -/

@[simp] theorem expand_nil (lookup : List Char → Option (List Char)) :
    expand lookup [] = [] :=
  expand_eq_fill (Parting.parts_nil_iff.mpr rfl) lookup

theorem ofText_referenceTo {name : List Char} (isName : IsName name) (rest : List Char) :
    Segment.ofText (referenceTo name ++ rest) = .reference name :: Segment.ofText rest := by
  have found := reference?_referenceTo isName rest
  rw [Segment.ofText]
  split
  · rename_i same
    cases found.symm.trans same
    rfl
  · rename_i nothing
    cases found.symm.trans nothing

theorem ofText_cons {character : Char} {rest : List Char}
    (none : reference? (character :: rest) = none) :
    Segment.ofText (character :: rest) = .plain character :: Segment.ofText rest := by
  rw [Segment.ofText]
  split
  · rename_i found
    cases none.symm.trans found
  · rfl

theorem expand_referenceTo (lookup : List Char → Option (List Char)) {name : List Char}
    (isName : IsName name) (rest : List Char) :
    expand lookup (referenceTo name ++ rest) = replacement lookup name ++ expand lookup rest := by
  rw [expand, ofText_referenceTo isName]
  rfl

theorem expand_cons (lookup : List Char → Option (List Char)) {character : Char}
    {rest : List Char} (none : reference? (character :: rest) = none) :
    expand lookup (character :: rest) = character :: expand lookup rest := by
  rw [expand, ofText_cons none]
  rfl

theorem expand_empty_parentheses (lookup : List Char → Option (List Char))
    (rest : List Char) :
    expand lookup ('$' :: '(' :: ')' :: rest) = '$' :: '(' :: ')' :: expand lookup rest := by
  rw [expand_cons lookup rfl, expand_cons lookup rfl, expand_cons lookup rfl]

theorem StartsReference.of_append {text rest : List Char}
    (starts : StartsReference (text ++ rest)) (unclosed : ')' ∉ rest) :
    StartsReference text := by
  rcases starts with ⟨name, behind, isName, split⟩
  rcases List.append_eq_append_iff.mp split with ⟨inside, whole, split⟩ | ⟨inside, whole, split⟩
  · rcases List.eq_nil_or_concat inside with empty | ⟨front, last, isLast⟩
    · apply Exists.intro name
      apply Exists.intro []
      rw [whole, empty, List.append_nil, List.append_nil]
      exact ⟨isName, rfl⟩
    · -- The last character of the reference would be one of `rest`.
      rw [isLast, List.concat_eq_append, ← List.append_assoc] at whole
      rcases List.append_inj' whole rfl with ⟨-, same⟩
      cases same
      apply absurd _ unclosed
      rw [split, isLast, List.concat_eq_append]
      simp
  · exact ⟨name, inside, isName, whole⟩

theorem expand_append_of_unclosed (lookup : List Char → Option (List Char))
    (text : List Char) {rest : List Char} (unclosed : ')' ∉ rest) :
    expand lookup (text ++ rest) = expand lookup text ++ rest := by
  induction text using Segment.ofText.induct with
  | case1 text name behind found induction =>
      rcases reference?_eq_some_iff.mp found with ⟨isName, rfl⟩
      rw [List.append_assoc, expand_referenceTo lookup isName, expand_referenceTo lookup isName,
        induction, List.append_assoc]
  | case2 =>
      rw [List.nil_append, expand_nil, List.nil_append]
      apply expand_of_undefined
      intro name member
      apply absurd _ unclosed
      exact (infix_of_mem_lookups member).subset (by simp [Segment.source])
  | case3 character behind nothing induction =>
      have still : reference? (character :: (behind ++ rest)) = none := by
        rw [reference?_eq_none_iff] at nothing ⊢
        intro starts
        exact nothing (StartsReference.of_append starts unclosed)
      rw [List.cons_append, expand_cons lookup still, expand_cons lookup nothing, induction,
        List.cons_append]

/-- A text falls in one way into plain texts and references, so that no other reference
starts in a plain text. Expansion replaces each of these references by the value of its
name, or leaves it as it is written where there is none, and leaves all plain text as it
is. It looks up these names, each reference once and from left to right, and never reads a
value again. Two parentheses without a name stay as they are, and so does what is behind
the last closing parenthesis. -/
theorem expand_replaces_references (text : List Char) :
    ∃ parting : Parting, parting.Parts text ∧
      (∀ other : Parting, other.Parts text → other = parting) ∧
      ∀ lookup : List Char → Option (List Char),
        expand lookup text = parting.fill (replacement lookup) ∧
        (expandWith (noting lookup) text).run [] = (expand lookup text, parting.names) ∧
        lookups text = parting.names ∧
        ((∀ name ∈ parting.names, lookup name = none) → expand lookup text = text) ∧
        (∀ rest, expand lookup ("$()".toList ++ rest) =
          "$()".toList ++ expand lookup rest) ∧
        ∀ rest, ')' ∉ rest → expand lookup (text ++ rest) = expand lookup text ++ rest := by
  have parts := Parting.parts_iff.mpr (Eq.refl (Parting.ofSegments (Segment.ofText text)))
  apply Exists.intro _
  apply And.intro parts
  constructor
  · intro other partsToo
    exact Parting.parts_iff.mp partsToo
  · intro lookup
    have names := lookups_eq_names parts
    refine ⟨expand_eq_fill parts lookup, ?_, names, ?_, ?_, ?_⟩
    · rw [← names]
      exact expandWith_noting lookup text []
    · intro undefined
      rw [← names] at undefined
      exact expand_of_undefined undefined
    · exact expand_empty_parentheses lookup
    · intro rest
      exact expand_append_of_unclosed lookup text

/-- The parentheses of a name may hold another opening, and a value may look like a
reference. -/
example :
    expand (fun name => if name = "a$(b".toList then some "$(c)".toList else none)
      "$$(a$(b)$()$(b".toList = "$$(c)$()$(b".toList := by decide +kernel

end Batchwise
