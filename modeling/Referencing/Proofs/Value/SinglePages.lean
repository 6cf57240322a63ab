import Referencing.Proofs.Text.Trimmed
import Referencing.Proofs.Value.PageRanges

namespace Referencing.Value

open Text Markup

-- A last page that only repeats the last digits of the first page, as the `2` after `132`. It
-- stands for the first page and is not written like it.
structure RepeatsEnd (start stop : Text) : Prop where
  ne_nil : stop ≠ []
  ne_start : stop ≠ start
  isSuffix : stop <:+ start

-- A range is more than one page exactly if its last page is not its first one again. A single
-- page is printed alone.
structure CountsPages (start stop : Text) (pages : Pages) : Prop where
  plural : pages.isPlural = true ↔ expand start stop ≠ start
  single : expand start stop = start → pages.text = start

section Marks

-- Digits, with white space around them.
def IsPage (text : Text) : Prop :=
  (trim text).all isDigit = true

-- No mark of a range begins in the text.
structure IsUnmarked (text : Text) : Prop where
  bracket : '[' ∉ text
  line : '–' ∉ text
  hyphen : '-' ∉ text

theorem IsUnmarked.mono {text part : Text} (h : IsUnmarked text) (hsubset : part ⊆ text) :
    IsUnmarked part where
  bracket := fun hmem => h.bracket (hsubset hmem)
  line := fun hmem => h.line (hsubset hmem)
  hyphen := fun hmem => h.hyphen (hsubset hmem)

theorem IsPage.isUnmarked {text : Text} (h : IsPage text) : IsUnmarked text := by
  have hnot : ∀ c, isBlank c = false → isDigit c = false → c ∉ text := by
    intro c hblank hdigit hmem
    have hc := List.all_eq_true.1 h c (mem_trim_of_not_blank hmem hblank)
    rw [hdigit] at hc
    contradiction
  exact ⟨hnot '[' (by decide) (by decide), hnot '–' (by decide) (by decide),
    hnot '-' (by decide) (by decide)⟩

theorem cutAt?_eq_none_of_not_mem {first : Char} {rest text : Text} (h : first ∉ text) :
    cutAt? (first :: rest) text = none :=
  cutAt?_eq_none_iff.2 fun hpart => h (hpart.subset List.mem_cons_self)

-- One hyphen is not two.
theorem cutAt?_hyphens_eq_none {before after : Text} (hbefore : '-' ∉ before)
    (hafter : '-' ∉ after) : cutAt? ['-', '-'] (before ++ ['-'] ++ after) = none := by
  refine cutAt?_eq_none_iff.2 fun hpart => ?_
  have hcount := hpart.sublist.count_le '-'
  rw [List.count_append, List.count_append, List.count_eq_zero.2 hbefore,
    List.count_eq_zero.2 hafter] at hcount
  simp at hcount

-- Whatever mark stands between two texts without any, the cut is made there.
theorem findSome?_cutAt? {before after : Text} (hbefore : IsUnmarked before)
    (hafter : IsUnmarked after) {mark : Text} (hmark : mark ∈ rangeMarks) :
    rangeMarks.findSome? (cutAt? · (before ++ mark ++ after)) = some (before, after) := by
  have hbracket : ∀ mark : Text, '[' ∉ mark → cutAt? dashMark (before ++ mark ++ after) = none :=
    fun mark h => cutAt?_eq_none_of_not_mem (by simp [hbefore.bracket, h, hafter.bracket])
  have hline : ∀ mark : Text, '–' ∉ mark → cutAt? ['–'] (before ++ mark ++ after) = none :=
    fun mark h => cutAt?_eq_none_of_not_mem (by simp [hbefore.line, h, hafter.line])
  simp only [rangeMarks, List.mem_cons, List.not_mem_nil, or_false] at hmark
  rcases hmark with rfl | rfl | rfl | rfl
  · have hcut : cutAt? dashMark (before ++ dashMark ++ after) = some (before, after) :=
      cutAt?_append after hbefore.bracket
    simp only [rangeMarks, List.findSome?_cons, hcut]
  · have hcut : cutAt? ['–'] (before ++ ['–'] ++ after) = some (before, after) :=
      cutAt?_append after hbefore.line
    simp only [rangeMarks, List.findSome?_cons, hbracket ['–'] (by decide), hcut]
  · have hcut : cutAt? ['-', '-'] (before ++ ['-', '-'] ++ after) = some (before, after) :=
      cutAt?_append after hbefore.hyphen
    simp only [rangeMarks, List.findSome?_cons, hbracket ['-', '-'] (by decide),
      hline ['-', '-'] (by decide), hcut]
  · have hcut : cutAt? ['-'] (before ++ ['-'] ++ after) = some (before, after) :=
      cutAt?_append after hbefore.hyphen
    simp only [rangeMarks, List.findSome?_cons, hbracket ['-'] (by decide), hline ['-'] (by decide),
      cutAt?_hyphens_eq_none hbefore.hyphen hafter.hyphen, hcut]

theorem not_blank_of_mem_rangeMarks {mark : Text} (h : mark ∈ rangeMarks) :
    mark ≠ [] ∧ ∀ c ∈ mark, isBlank c = false := by
  have hall : ∀ mark ∈ rangeMarks, mark ≠ [] ∧ mark.all (!isBlank ·) = true := by decide
  obtain ⟨hne, hblank⟩ := hall mark h
  exact ⟨hne, by simpa using hblank⟩

theorem trim_append_mark (start stop : Text) {mark : Text} (h : mark ∈ rangeMarks) :
    trim (start ++ mark ++ stop) = trimStart start ++ mark ++ trimEnd stop := by
  obtain ⟨hne, hblank⟩ := not_blank_of_mem_rangeMarks h
  have hfirst : ∀ c ∈ (mark ++ stop).head?, isBlank c = false := by
    rw [List.head?_append_of_ne_nil _ hne]
    exact fun c hc => hblank c (List.mem_of_mem_head? hc)
  have hlast : ∀ c ∈ (trimStart start ++ mark).getLast?, isBlank c = false := by
    rw [List.getLast?_append_of_ne_nil _ hne]
    exact fun c hc => hblank c (List.mem_of_getLast? hc)
  rw [trim, List.append_assoc, trimStart_append hfirst, ← List.append_assoc,
    append_trimEnd hlast]

-- Two pages in one text are the same as both by themselves.
theorem layoutPages_append (form : PageForm) {start stop : Text} (hstart : IsPage start)
    (hstop : IsPage stop) {mark : Text} (hmark : mark ∈ rangeMarks) :
    layoutPages form (start ++ mark ++ stop) = layoutRange form start (some stop) := by
  have hbefore := hstart.isUnmarked.mono (trimStart_isSuffix start).subset
  have hafter := hstop.isUnmarked.mono (trimEnd_isPrefix stop).subset
  have hcut := findSome?_cutAt? hbefore hafter hmark
  simp only [layoutPages, trim_append_mark start stop hmark, hcut]
  simp only [layoutRange, Option.map_some, trim_trimStart, trim_trimEnd]

end Marks

section Ranges

variable {start stop : Text}

-- A last page stands for the first one if it ends like it.
theorem expand_eq_start_iff : expand start stop = start ↔ stop <:+ start := by
  by_cases hle : start.length ≤ stop.length
  · rw [expand_of_le hle]
    constructor
    · rintro rfl
      exact List.suffix_rfl
    · exact fun hsuffix => hsuffix.eq_of_length_le hle
  · rw [expand_of_lt (Nat.lt_of_not_le hle)]
    constructor
    · exact fun heq => ⟨_, heq⟩
    · rintro ⟨before, rfl⟩
      rw [List.length_append, Nat.add_sub_cancel, List.take_left]

theorem layoutRange_cases (form : PageForm) (start stop : Text) :
    ((trim stop = [] ∨ trim stop = trim start) ∧
      layoutRange form start (some stop) = ⟨trim start, false⟩) ∨
    (trim stop ≠ [] ∧ trim stop ≠ trim start ∧
      layoutRange form start (some stop) =
        ⟨trim start ++ dashMark ++ layoutStop form (trim start) (trim stop), true⟩) := by
  by_cases hnil : trim stop = []
  · exact .inl ⟨.inl hnil, by simp [layoutRange, Option.filter, hnil]⟩
  · by_cases hsame : trim stop = trim start
    · exact .inl ⟨.inr hsame, by simp [layoutRange, Option.filter, hsame]⟩
    · exact .inr ⟨hnil, hsame, by simp [layoutRange, Option.filter, hnil, hsame]⟩

theorem countsPages_layoutRange_iff (form : PageForm) (start stop : Text) :
    CountsPages (trim start) (trim stop) (layoutRange form start (some stop)) ↔
      ¬RepeatsEnd (trim start) (trim stop) := by
  rcases layoutRange_cases form start stop with ⟨hsingle, hpages⟩ | ⟨hnil, hsame, hpages⟩
  · have hexpand : expand (trim start) (trim stop) = trim start := by
      rw [expand_eq_start_iff]
      rcases hsingle with hnil | hsame
      · rw [hnil]
        exact List.nil_suffix
      · rw [hsame]
    rw [hpages]
    constructor
    · rintro - ⟨hnil, hsame, -⟩
      exact hsingle.elim hnil hsame
    · intro _
      exact ⟨by simp [hexpand], fun _ => rfl⟩
  · rw [hpages]
    constructor
    · rintro ⟨hplural, -⟩ ⟨-, -, hsuffix⟩
      exact hplural.1 rfl (expand_eq_start_iff.2 hsuffix)
    · intro hrepeats
      have hexpand : expand (trim start) (trim stop) ≠ trim start :=
        fun heq => hrepeats ⟨hnil, hsame, expand_eq_start_iff.1 heq⟩
      exact ⟨by simp [hexpand], fun heq => absurd heq hexpand⟩

end Ranges

-- Pages are compared as they are typed, and so a last page that is typed with fewer digits than
-- the first one but stands for it counts as another page; nothing else is miscounted.
theorem countsPages_layoutPages_iff (form : PageForm) {start stop : Text} (hstart : IsPage start)
    (hstop : IsPage stop) :
    (CountsPages (trim start) (trim stop) (layoutRange form start (some stop)) ↔
      ¬RepeatsEnd (trim start) (trim stop)) ∧
    ∀ mark ∈ rangeMarks,
      (CountsPages (trim start) (trim stop) (layoutPages form (start ++ mark ++ stop)) ↔
        ¬RepeatsEnd (trim start) (trim stop)) := by
  refine ⟨countsPages_layoutRange_iff form start stop, fun mark hmark => ?_⟩
  rw [layoutPages_append form hstart hstop hmark]
  exact countsPages_layoutRange_iff form start stop

-- Two hyphens between a number and a longer one.
theorem countsPages_over_hundred :
    let start := " 98 ".toList
    let stop := " 102".toList
    IsPage start ∧ IsPage stop ∧ ¬RepeatsEnd (trim start) (trim stop) ∧
      CountsPages (trim start) (trim stop)
        (layoutPages .abbreviated (start ++ ['-', '-'] ++ stop)) := by
  intro start stop
  have hstart : IsPage start := by unfold IsPage; decide
  have hstop : IsPage stop := by unfold IsPage; decide
  have hrepeats : ¬RepeatsEnd (trim start) (trim stop) :=
    fun h => absurd h.isSuffix (by decide)
  refine ⟨hstart, hstop, hrepeats, ?_⟩
  exact ((countsPages_layoutPages_iff .abbreviated hstart hstop).2 _ (by decide)).2 hrepeats

-- The page 132 and its own last digit are printed as a range.
theorem not_countsPages_of_last_digit :
    let start := "132".toList
    let stop := "2".toList
    let pages := layoutRange .expanded start (some stop)
    expand start stop = start ∧ pages = ⟨"132[ndash]132".toList, true⟩ ∧
      ¬CountsPages start stop pages := by
  intro start stop pages
  have hexpand : expand start stop = start := by decide
  have hpages : pages = ⟨"132[ndash]132".toList, true⟩ := by decide
  refine ⟨hexpand, hpages, fun h => ?_⟩
  exact h.plural.1 (by rw [hpages]) hexpand

end Referencing.Value
