import Referencing.Proofs.Text.LetterCase
import Referencing.Value.Title

namespace Referencing.Value

open Text

def isBrace (c : Char) : Bool :=
  opensBrace c || closesBrace c

def HasNoBrace (text : Text) : Prop :=
  ∀ c ∈ text, isBrace c = false

instance (text : Text) : Decidable (HasNoBrace text) :=
  decidable_of_iff (text.all (!isBrace ·) = true) (by simp [HasNoBrace])

-- A part in braces, and what follows up to the next one.
structure Protected where
  kept : Text
  after : Text
  kept_plain : HasNoBrace kept
  after_plain : HasNoBrace after

-- A text in which some parts stand in braces, none of them in another.
structure Braced where
  first : Text
  rest : List Protected
  first_plain : HasNoBrace first

section Spelling

def Protected.spelled (part : Protected) : Text :=
  '\x7b' :: part.kept ++ '\x7d' :: part.after

def Braced.spelled (title : Braced) : Text :=
  title.first ++ title.rest.flatMap Protected.spelled

-- The parts without the braces.
def Braced.text (title : Braced) : Text :=
  title.first ++ title.rest.flatMap fun part => part.kept ++ part.after

-- The characters without the braces, each with whether it is kept as it is.
def Protected.characters (part : Protected) : List (Char × Bool) :=
  part.kept.map (·, true) ++ part.after.map (·, false)

def Braced.characters (title : Braced) : List (Char × Bool) :=
  title.first.map (·, false) ++ title.rest.flatMap Protected.characters

-- Lower case outside the braces but for the first letter of the whole text, if that is outside.
def Braced.inSentenceCase (title : Braced) : Text :=
  let firstLetter := title.characters.findIdx fun (c, _) => isAlphabetic c
  (title.characters.mapIdx fun place (c, kept) =>
    if kept then [c] else if place = firstLetter then upperOf c else lowerOf c).flatten

end Spelling

section Braces

theorem HasNoBrace.mono {text part : Text} (h : HasNoBrace text) (hsubset : part ⊆ text) :
    HasNoBrace part :=
  fun c hc => h c (hsubset hc)

theorem HasNoBrace.append {left right : Text} (hleft : HasNoBrace left)
    (hright : HasNoBrace right) : HasNoBrace (left ++ right) :=
  fun c hc => (List.mem_append.1 hc).elim (hleft c) (hright c)

theorem hasNoBrace_cons_iff {c : Char} {text : Text} :
    HasNoBrace (c :: text) ↔ (opensBrace c = false ∧ closesBrace c = false) ∧ HasNoBrace text := by
  rw [HasNoBrace, List.forall_mem_cons, isBrace, Bool.or_eq_false_iff, HasNoBrace]

-- A change of case by such tables gives no brace.
theorem not_brace_of_image {runs : List (Nat × Nat × Nat × Nat)}
    {expanded : List (Nat × List Nat)} {c d : Char}
    (hexpanded : ∀ entry ∈ expanded, ∀ point ∈ entry.2, isBrace (Char.ofNat point) = false)
    (hruns : ∀ run ∈ runs,
      '\x7d'.toNat < run.2.2.2 ∨ run.2.2.2 + (run.2.1 - run.1) < '\x7b'.toNat)
    (h : d = c ∨ (∃ entry ∈ expanded, ∃ point ∈ entry.2, d = Char.ofNat point) ∨
      ∃ run ∈ runs, ∃ point, run.2.2.2 ≤ point ∧ point ≤ run.2.2.2 + (run.2.1 - run.1) ∧
        d = Char.ofNat point)
    (hc : isBrace c = false) : isBrace d = false := by
  rcases h with rfl | ⟨entry, hentry, point, hpoint, rfl⟩ | ⟨run, hrun, point, hleast, hmost, rfl⟩
  · exact hc
  · exact hexpanded entry hentry point hpoint
  · rcases toNat_ofNat point with hpoint | hzero
    · have happart := hruns run hrun
      have hopen : '\x7b'.toNat = 123 := rfl
      have hclose : '\x7d'.toNat = 125 := rfl
      have hne : Char.ofNat point ≠ '\x7b' ∧ Char.ofNat point ≠ '\x7d' := by
        refine ⟨fun same => ?_, fun same => ?_⟩ <;>
        · rw [same] at hpoint
          omega
      simp [isBrace, opensBrace, closesBrace, hne.1, hne.2]
    · rw [hzero]
      decide

theorem not_brace_of_mem_upperOf {c d : Char} (h : d ∈ upperOf c) (hc : isBrace c = false) :
    isBrace d = false :=
  not_brace_of_image (by decide +kernel) (by decide +kernel) (mem_upperOf h) hc

theorem not_brace_of_mem_lowerOf {c d : Char} (h : d ∈ lowerOf c) (hc : isBrace c = false) :
    isBrace d = false :=
  not_brace_of_image (by decide +kernel) (by decide +kernel) (mem_lowerOf h) hc

theorem hasNoBrace_withoutBraces (text : Text) : HasNoBrace (withoutBraces text) := by
  intro c hc
  simpa [isBrace] using (List.mem_filter.1 hc).2

theorem hasNoBrace_sentenceCaseFrom (depth : Nat) (seen : Bool) (text : Text) :
    HasNoBrace (sentenceCaseFrom depth seen text) := by
  induction text generalizing depth seen with
  | nil => exact fun c hc => absurd hc List.not_mem_nil
  | cons c rest ih =>
    rw [sentenceCaseFrom]
    split
    · exact ih _ _
    · next hopens =>
      split
      · exact ih _ _
      · next hcloses =>
        have hc : isBrace c = false := by simp [isBrace, hopens, hcloses]
        split
        · exact hasNoBrace_cons_iff.2 ⟨by simp [hopens, hcloses], ih _ _⟩
        · split
          · exact HasNoBrace.append (fun d hd => not_brace_of_mem_upperOf hd hc) (ih _ _)
          · exact HasNoBrace.append (fun d hd => not_brace_of_mem_lowerOf hd hc) (ih _ _)

theorem hasNoBrace_applyCase (form : TitleCase) (text : Text) :
    HasNoBrace (applyCase form text) := by
  cases form with
  | asEntered => exact hasNoBrace_withoutBraces text
  | sentence => exact hasNoBrace_sentenceCaseFrom 0 false text

end Braces

section Case

-- What the scan does with the characters once the braces are read: `seen` tells whether a letter
-- came before.
def caseFrom (seen : Bool) : List (Char × Bool) → Text
  | [] => []
  | (c, kept) :: rest =>
    (if kept then [c] else if isAlphabetic c && !seen then upperOf c else lowerOf c) ++
      caseFrom (seen || isAlphabetic c) rest

variable {rest : Text} {characters : List (Char × Bool)}

theorem sentenceCaseFrom_append {plain : Text} (h : HasNoBrace plain)
    (hrest : ∀ seen, sentenceCaseFrom 0 seen rest = caseFrom seen characters) (seen : Bool) :
    sentenceCaseFrom 0 seen (plain ++ rest) =
      caseFrom seen (plain.map (·, false) ++ characters) := by
  induction plain generalizing seen with
  | nil => exact hrest seen
  | cons c plain ih =>
    obtain ⟨⟨hopens, hcloses⟩, hplain⟩ := hasNoBrace_cons_iff.1 h
    cases hletter : isAlphabetic c <;> cases seen <;>
      simp [sentenceCaseFrom, caseFrom, hopens, hcloses, hletter, ih hplain]

theorem sentenceCaseFrom_kept {kept : Text} (h : HasNoBrace kept)
    (hrest : ∀ seen, sentenceCaseFrom 0 seen rest = caseFrom seen characters) (seen : Bool) :
    sentenceCaseFrom 1 seen (kept ++ '\x7d' :: rest) =
      caseFrom seen (kept.map (·, true) ++ characters) := by
  induction kept generalizing seen with
  | nil => exact hrest seen
  | cons c kept ih =>
    obtain ⟨⟨hopens, hcloses⟩, hkept⟩ := hasNoBrace_cons_iff.1 h
    simp [sentenceCaseFrom, caseFrom, hopens, hcloses, ih hkept]

theorem sentenceCaseFrom_protected (parts : List Protected) (seen : Bool) :
    sentenceCaseFrom 0 seen (parts.flatMap Protected.spelled) =
      caseFrom seen (parts.flatMap Protected.characters) := by
  induction parts generalizing seen with
  | nil => rfl
  | cons part parts ih =>
    have hafter := sentenceCaseFrom_append part.after_plain ih
    have hkept := sentenceCaseFrom_kept part.kept_plain hafter seen
    rw [List.flatMap_cons, List.flatMap_cons, Protected.characters, List.append_assoc, ← hkept,
      Protected.spelled, List.append_assoc, List.cons_append]
    rfl

-- The flag of the scan is up exactly behind the first letter of the whole text.
theorem caseFrom_eq_mapIdx (seen : Bool) (characters : List (Char × Bool)) :
    caseFrom seen characters =
      (characters.mapIdx fun place (c, kept) =>
        if kept then [c]
        else if seen then lowerOf c
        else if place = characters.findIdx (fun (c, _) => isAlphabetic c) then upperOf c
        else lowerOf c).flatten := by
  induction characters generalizing seen with
  | nil => rfl
  | cons entry rest ih =>
    obtain ⟨c, kept⟩ := entry
    rw [caseFrom, ih, List.mapIdx_cons, List.flatten_cons]
    cases hletter : isAlphabetic c <;> cases seen <;> simp [List.findIdx_cons, hletter]

theorem sentenceCase_spelled (title : Braced) :
    sentenceCase title.spelled = title.inSentenceCase := by
  have hscan := sentenceCaseFrom_append title.first_plain
    (sentenceCaseFrom_protected title.rest) false
  rw [sentenceCase, Braced.spelled, hscan, caseFrom_eq_mapIdx]
  rfl

theorem HasNoBrace.withoutBraces_eq {text : Text} (h : HasNoBrace text) :
    withoutBraces text = text := by
  refine List.filter_eq_self.2 fun c hc => ?_
  simpa [isBrace] using h c hc

theorem withoutBraces_append (left right : Text) :
    withoutBraces (left ++ right) = withoutBraces left ++ withoutBraces right :=
  List.filter_append left right

theorem withoutBraces_spelled (title : Braced) : withoutBraces title.spelled = title.text := by
  have hpart : ∀ part : Protected, withoutBraces part.spelled = part.kept ++ part.after := by
    intro part
    have hclosed : withoutBraces ('\x7d' :: part.after) = part.after :=
      part.after_plain.withoutBraces_eq
    calc
      withoutBraces part.spelled = withoutBraces (part.kept ++ '\x7d' :: part.after) := rfl
      _ = part.kept ++ part.after := by
        rw [withoutBraces_append, part.kept_plain.withoutBraces_eq, hclosed]
  rw [Braced.spelled, withoutBraces_append, title.first_plain.withoutBraces_eq, Braced.text]
  refine congrArg (title.first ++ ·) ?_
  generalize title.rest = parts
  induction parts with
  | nil => rfl
  | cons part parts ih =>
    rw [List.flatMap_cons, List.flatMap_cons, withoutBraces_append, hpart, ih]

end Case

section Trimming

def Protected.trimEnd (part : Protected) : Protected where
  kept := part.kept
  after := Text.trimEnd part.after
  kept_plain := part.kept_plain
  after_plain := part.after_plain.mono (trimEnd_isPrefix part.after).subset

def trimLast : List Protected → List Protected
  | [] => []
  | [part] => [part.trimEnd]
  | part :: next :: rest => part :: trimLast (next :: rest)

-- Braces are no white space, so only the outermost parts lose some.
def Braced.trim (title : Braced) : Braced :=
  match title.rest with
  | [] => ⟨Text.trim title.first, [], title.first_plain.mono (trim_isInfix title.first).subset⟩
  | part :: rest =>
    ⟨trimStart title.first, trimLast (part :: rest),
      title.first_plain.mono (trimStart_isSuffix title.first).subset⟩

theorem isBlankText_open (text : Text) : isBlankText ('\x7b' :: text) = false := by
  rw [isBlankText, List.all_cons, show isBlank '\x7b' = false by decide, Bool.false_and]

theorem Protected.spelled_trimEnd (part : Protected) :
    part.trimEnd.spelled = Text.trimEnd part.spelled := by
  have hclose : ∀ c ∈ ('\x7b' :: part.kept ++ ['\x7d']).getLast?, isBlank c = false := by
    rw [List.getLast?_append_of_ne_nil _ (List.cons_ne_nil _ _)]
    simp only [List.getLast?_singleton, Option.mem_some_iff, forall_eq']
    decide
  calc
    '\x7b' :: part.kept ++ '\x7d' :: Text.trimEnd part.after =
        '\x7b' :: part.kept ++ ['\x7d'] ++ Text.trimEnd part.after := by simp
    _ = Text.trimEnd ('\x7b' :: part.kept ++ ['\x7d'] ++ part.after) :=
      (append_trimEnd hclose).symm
    _ = Text.trimEnd part.spelled := by simp [Protected.spelled]

theorem flatMap_trimLast (part : Protected) (rest : List Protected) :
    (trimLast (part :: rest)).flatMap Protected.spelled =
      Text.trimEnd ((part :: rest).flatMap Protected.spelled) := by
  induction rest generalizing part with
  | nil =>
    rw [trimLast, List.flatMap_singleton, List.flatMap_singleton, Protected.spelled_trimEnd]
  | cons next rest ih =>
    rw [trimLast, List.flatMap_cons, ih, List.flatMap_cons (x := part)]
    exact (trimEnd_append_of_not_blank _ (isBlankText_open _)).symm

theorem spelled_trim (title : Braced) : title.trim.spelled = Text.trim title.spelled := by
  obtain ⟨first, rest, hfirst⟩ := title
  cases rest with
  | nil => simp [Braced.trim, Braced.spelled]
  | cons part rest =>
    have hopen : ∀ c ∈ ((part :: rest).flatMap Protected.spelled).head?, isBlank c = false := by
      simp only [List.flatMap_cons, Protected.spelled, List.cons_append, List.head?_cons,
        Option.mem_some_iff, forall_eq']
      decide
    calc
      trimStart first ++ (trimLast (part :: rest)).flatMap Protected.spelled =
          trimStart first ++ Text.trimEnd ((part :: rest).flatMap Protected.spelled) := by
        rw [flatMap_trimLast]
      _ = Text.trimEnd (trimStart first ++ (part :: rest).flatMap Protected.spelled) :=
        (trimEnd_append_of_not_blank _ (isBlankText_open _)).symm
      _ = Text.trim (first ++ (part :: rest).flatMap Protected.spelled) := by
        rw [← trimStart_append hopen, Text.trim]

end Trimming

section Subtitles

theorem layoutTitle_none (form : TitleCase) (title : Text) :
    layoutTitle form title none = applyCase form (trim title) := rfl

theorem layoutTitle_some (form : TitleCase) (title subtitle : Text) :
    layoutTitle form title (some subtitle) =
      layoutTitle form title none ++
        if isBlankText subtitle then []
        else titleJoint (layoutTitle form title none) ++ layoutTitle form subtitle none := by
  by_cases hblank : isBlankText subtitle
  · have hnil : trim subtitle = [] := trim_eq_nil_iff.2 hblank
    simp [layoutTitle, Option.filter, hblank, hnil]
  · have hne : trim subtitle ≠ [] := fun hnil => hblank (trim_eq_nil_iff.1 hnil)
    simp [layoutTitle, Option.filter, hblank, hne]

theorem hasNoBrace_titleJoint (title : Text) : HasNoBrace (titleJoint title) := by
  unfold titleJoint
  split <;> decide

theorem hasNoBrace_layoutTitle (form : TitleCase) (title : Text) (subtitle : Option Text) :
    HasNoBrace (layoutTitle form title subtitle) := by
  cases subtitle with
  | none => exact hasNoBrace_applyCase form (trim title)
  | some subtitle =>
    rw [layoutTitle_some]
    refine HasNoBrace.append (hasNoBrace_applyCase form (trim title)) ?_
    split
    · exact fun c hc => absurd hc List.not_mem_nil
    · exact HasNoBrace.append (hasNoBrace_titleJoint _) (hasNoBrace_applyCase form (trim subtitle))

end Subtitles

-- What stands in braces is printed as it is and the braces are left out; sentence case changes the
-- rest, letter by letter. No brace is ever printed, and the subtitle is laid out by itself.
theorem layoutTitle_braces :
    (∀ title : Braced,
      title.trim.spelled = trim title.spelled ∧
      layoutTitle .asEntered title.spelled none = title.trim.text ∧
      layoutTitle .sentence title.spelled none = title.trim.inSentenceCase ∧
      sentenceCase title.spelled = title.inSentenceCase) ∧
    (∀ form text, HasNoBrace (applyCase form text)) ∧
    (∀ form title subtitle, HasNoBrace (layoutTitle form title subtitle)) ∧
    ∀ form title subtitle,
      layoutTitle form title (some subtitle) =
        layoutTitle form title none ++
          if isBlankText subtitle then []
          else titleJoint (layoutTitle form title none) ++ layoutTitle form subtitle none := by
  refine ⟨fun title => ⟨spelled_trim title, ?_, ?_, sentenceCase_spelled title⟩,
    hasNoBrace_applyCase, hasNoBrace_layoutTitle, layoutTitle_some⟩
  · rw [layoutTitle_none, ← spelled_trim]
    exact withoutBraces_spelled title.trim
  · rw [layoutTitle_none, ← spelled_trim]
    exact sentenceCase_spelled title.trim

-- The first letter of the title is in braces, so no letter outside is made a capital.
example : layoutTitle .sentence " \x7biPhone\x7d Stories".toList (some "a \x7bNATO\x7d View".toList) =
    "iPhone stories: A NATO view".toList := by
  decide +kernel

end Referencing.Value
