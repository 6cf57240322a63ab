import Referencing.Proofs.Markup.Rtf
import Referencing.Value.Pages

namespace Referencing.Value

open Text Markup

-- The shortest of the endings of a text that have a property.
structure IsShortest (good : Text → Prop) (whole ending : Text) : Prop where
  isSuffix : ending <:+ whole
  holds : good ending
  shortest : ∀ other, other <:+ whole → good other → ending.length ≤ other.length

-- The last page of a range, printed in each form, still is the last page of that range.
structure KeepsRange (start stop : Text) : Prop where
  same : ∀ form, expand start (layoutStop form start stop) = expand start stop
  abbreviated : IsShortest (fun ending => ending ≠ [] ∧ expand start ending = expand start stop)
    (expand start stop) (layoutStop .abbreviated start stop)
  twoDigit : IsShortest (fun ending => (2 ≤ ending.length ∨ ending = expand start stop) ∧
    expand start ending = expand start stop) (expand start stop) (layoutStop .twoDigit start stop)
  -- A number with more digits than the first page is printed in full.
  whole : (expand start stop).length ≠ start.length →
    ∀ form, layoutStop form start stop = expand start stop
  -- It does not matter in which form a range was printed before.
  again : ∀ form other, other ≠ .asEntered →
    layoutStop other start (layoutStop form start stop) = layoutStop other start stop

section Checked

theorem isDigits_iff {text : Text} :
    isDigits text = true ↔ text ≠ [] ∧ ∀ c ∈ text, isDigit c = true := by
  simp [isDigits]

-- A digit takes one byte.
theorem size_of_forall_isDigit {text : Text} (h : ∀ c ∈ text, isDigit c = true) :
    size text = text.length := by
  induction text with
  | nil => rfl
  | cons c rest ih =>
    rw [List.forall_mem_cons] at h
    have hascii : c.toNat < 0x80 := isAscii_of_isDigit h.1
    have hc : c.utf8Size = 1 := Char.utf8Size_eq_one_iff.2 (Nat.le_of_lt_succ hascii)
    rw [size_cons, List.length_cons, ih h.2, hc, Nat.add_comm]

theorem expand?_eq {start stop : Text} (hstart : isDigits start = true)
    (hstop : isDigits stop = true) : expand? start stop = some (expand start stop) := by
  have hdigits := (isDigits_iff.1 hstart).2
  have hsize := size_of_forall_isDigit hdigits
  rw [expand?, expand, hsize, size_of_forall_isDigit (isDigits_iff.1 hstop).2]
  split
  · rfl
  · -- The cut is made where as many digits stand before it as are to be taken.
    let count := start.length - stop.length
    have htake : size (start.take count) = count := by
      rw [size_of_forall_isDigit fun c hc => hdigits c (List.mem_of_mem_take hc),
        List.length_take]
      omega
    have hcut := cutAtByte?_size (start.take count) (start.drop count)
    rw [htake, List.take_append_drop] at hcut
    rw [hcut]
    rfl

theorem shorten?_eq (kept : Nat) (start stop : Text) :
    shorten? kept start stop = some (shorten kept start stop) := by
  rw [shorten?, shorten]
  split
  · exact if_pos (Nat.le_trans (Nat.min_le_right _ _) (Nat.sub_le _ _))
  · rfl

theorem layoutStop?_eq (form : PageForm) (start stop : Text) :
    layoutStop? form start stop = some (layoutStop form start stop) := by
  unfold layoutStop? layoutStop
  split
  · next h =>
    obtain ⟨hstart, hstop⟩ := Bool.and_eq_true_iff.1 h
    have hexpand := expand?_eq hstart hstop
    cases form with
    | asEntered => rfl
    | abbreviated | twoDigit => simp only [hexpand, Option.bind_some, shorten?_eq]
    | expanded => exact hexpand
  · rfl

end Checked

section Shortening

variable {start stop whole : Text}

theorem length_le_expand (start stop : Text) : start.length ≤ (expand start stop).length := by
  unfold expand
  split
  · assumption
  · rw [List.length_append, List.length_take]
    omega

theorem expand_of_le (h : start.length ≤ stop.length) : expand start stop = stop :=
  if_pos h

theorem expand_of_lt (h : stop.length < start.length) :
    expand start stop = start.take (start.length - stop.length) ++ stop :=
  if_neg (Nat.not_le_of_lt h)

theorem length_expand_of_lt (h : stop.length < start.length) :
    (expand start stop).length = start.length := by
  rw [expand_of_lt h, List.length_append, List.length_take]
  omega

theorem take_eq_take_iff_le_sharedLength {left right : Text} {count : Nat}
    (hleft : count ≤ left.length) (hright : count ≤ right.length) :
    left.take count = right.take count ↔ count ≤ sharedLength left right := by
  induction left generalizing right count with
  | nil =>
    obtain rfl : count = 0 := Nat.le_zero.1 hleft
    simp
  | cons first left ih =>
    cases count with
    | zero => simp
    | succ count =>
      cases right with
      | nil => contradiction
      | cons other right =>
        have hrest := ih (Nat.le_of_succ_le_succ hleft) (Nat.le_of_succ_le_succ hright)
        by_cases hfirst : first = other
        · simp [sharedLength, hfirst, hrest]
        · simp [sharedLength, hfirst]

-- Digits can be left out as far as both numbers have the same ones.
theorem expand_drop_eq_iff (hlength : whole.length = start.length) {count : Nat}
    (hcount : count ≤ whole.length) :
    expand start (whole.drop count) = whole ↔ count ≤ sharedLength start whole := by
  rw [← take_eq_take_iff_le_sharedLength (hlength ▸ hcount) hcount]
  have hdrop : (whole.drop count).length = whole.length - count := List.length_drop
  by_cases hle : start.length ≤ (whole.drop count).length
  · -- Nothing is left out.
    obtain rfl | hnil : count = 0 ∨ whole.length = 0 := by omega
    · rw [expand_of_le hle, List.drop_zero, List.take_zero, List.take_zero]
      exact ⟨fun _ => rfl, fun _ => rfl⟩
    · obtain rfl := List.length_eq_zero_iff.1 hnil
      obtain rfl := List.length_eq_zero_iff.1 hlength.symm
      simp [expand]
  · have hrest : start.length - (whole.drop count).length = count := by omega
    rw [expand_of_lt (Nat.lt_of_not_le hle), hrest]
    constructor
    · intro h
      exact List.append_cancel_right (h.trans (List.take_append_drop count whole).symm)
    · intro h
      rw [h, List.take_append_drop]

theorem isShortest_shorten (kept : Nat) (h : start.length ≤ whole.length) :
    IsShortest (fun ending => (kept ≤ ending.length ∨ ending = whole) ∧
      expand start ending = whole) whole (shorten kept start whole) := by
  by_cases hlength : start.length = whole.length
  · have hshorten : shorten kept start whole =
        whole.drop (min (sharedLength start whole) (whole.length - kept)) := if_pos hlength
    rw [hshorten]
    refine ⟨List.drop_suffix _ _, ⟨?_, ?_⟩, ?_⟩
    · rw [List.length_drop]
      by_cases hkept : kept ≤ whole.length
      · left
        omega
      · right
        have hzero : min (sharedLength start whole) (whole.length - kept) = 0 := by omega
        rw [hzero, List.drop_zero]
    · exact (expand_drop_eq_iff hlength.symm (by omega)).2 (Nat.min_le_left _ _)
    · rintro other hsuffix ⟨hkept, hexpand⟩
      rw [List.suffix_iff_eq_drop] at hsuffix
      have hle : whole.length - other.length ≤ sharedLength start whole :=
        (expand_drop_eq_iff hlength.symm (Nat.sub_le _ _)).1 (hsuffix ▸ hexpand)
      have hother : kept ≤ other.length ∨ other.length = whole.length :=
        hkept.imp_right (congrArg List.length)
      rw [List.length_drop]
      omega
  · have hshorten : shorten kept start whole = whole := if_neg hlength
    rw [hshorten]
    refine ⟨List.suffix_rfl, ⟨.inr rfl, expand_of_le h⟩, ?_⟩
    rintro other - ⟨-, hexpand⟩
    -- An ending that is filled up would be as long as the first page.
    by_cases hlt : other.length < start.length
    · have hother := length_expand_of_lt hlt
      rw [hexpand] at hother
      omega
    · rw [expand_of_le (Nat.le_of_not_lt hlt)] at hexpand
      rw [hexpand]

end Shortening

section Forms

variable {start stop : Text}

theorem isDigits_expand (hstart : isDigits start = true) (hstop : isDigits stop = true) :
    isDigits (expand start stop) = true := by
  rw [isDigits_iff] at *
  unfold expand
  split
  · exact hstop
  · refine ⟨List.append_ne_nil_of_right_ne_nil _ hstop.1, List.forall_mem_append.2 ⟨?_, hstop.2⟩⟩
    exact fun c hc => hstart.2 c (List.mem_of_mem_take hc)

-- What is printed of two numbers in each form.
theorem layoutStop_of_isDigits (hstart : isDigits start = true) (hstop : isDigits stop = true) :
    layoutStop .asEntered start stop = stop ∧
      layoutStop .abbreviated start stop = shorten 1 start (expand start stop) ∧
      layoutStop .twoDigit start stop = shorten 2 start (expand start stop) ∧
      layoutStop .expanded start stop = expand start stop := by
  simp [layoutStop, hstart, hstop]

theorem expand_layoutStop (hstart : isDigits start = true) (hstop : isDigits stop = true)
    (form : PageForm) : expand start (layoutStop form start stop) = expand start stop := by
  have hlength := length_le_expand start stop
  obtain ⟨hentered, habbreviated, htwoDigit, hexpanded⟩ := layoutStop_of_isDigits hstart hstop
  cases form with
  | asEntered => rw [hentered]
  | abbreviated => rw [habbreviated, (isShortest_shorten 1 hlength).holds.2]
  | twoDigit => rw [htwoDigit, (isShortest_shorten 2 hlength).holds.2]
  | expanded => rw [hexpanded, expand_of_le hlength]

theorem isDigits_shorten {kept : Nat} (hkept : 0 < kept) {whole : Text}
    (hlength : start.length ≤ whole.length) (hwhole : isDigits whole = true) :
    isDigits (shorten kept start whole) = true := by
  rw [isDigits_iff] at *
  obtain ⟨hsuffix, ⟨hlong | heq, -⟩, -⟩ := isShortest_shorten kept hlength
  · exact ⟨List.length_pos_iff.1 (Nat.lt_of_lt_of_le hkept hlong),
      fun c hc => hwhole.2 c (hsuffix.subset hc)⟩
  · rwa [heq]

theorem isDigits_layoutStop (hstart : isDigits start = true) (hstop : isDigits stop = true)
    (form : PageForm) : isDigits (layoutStop form start stop) = true := by
  have hlength := length_le_expand start stop
  have hwhole := isDigits_expand hstart hstop
  obtain ⟨hentered, habbreviated, htwoDigit, hexpanded⟩ := layoutStop_of_isDigits hstart hstop
  cases form with
  | asEntered => rwa [hentered]
  | abbreviated => rw [habbreviated, isDigits_shorten Nat.one_pos hlength hwhole]
  | twoDigit => rw [htwoDigit, isDigits_shorten Nat.two_pos hlength hwhole]
  | expanded => rwa [hexpanded]

-- Except as it was entered, a last page is printed from the number it stands for alone.
theorem layoutStop_congr {other : Text} (hstart : isDigits start = true)
    (hstop : isDigits stop = true) (hother : isDigits other = true)
    (h : expand start stop = expand start other) {form : PageForm} (hform : form ≠ .asEntered) :
    layoutStop form start stop = layoutStop form start other := by
  obtain ⟨-, habbreviated, htwoDigit, hexpanded⟩ := layoutStop_of_isDigits hstart hstop
  obtain ⟨-, habbreviated', htwoDigit', hexpanded'⟩ := layoutStop_of_isDigits hstart hother
  cases form with
  | asEntered => contradiction
  | abbreviated => rw [habbreviated, habbreviated', h]
  | twoDigit => rw [htwoDigit, htwoDigit', h]
  | expanded => rw [hexpanded, hexpanded', h]

theorem layoutStop_of_length_ne (hstart : isDigits start = true) (hstop : isDigits stop = true)
    (h : (expand start stop).length ≠ start.length) (form : PageForm) :
    layoutStop form start stop = expand start stop := by
  have hshorten : ∀ kept, shorten kept start (expand start stop) = expand start stop :=
    fun kept => if_neg h.symm
  have hle : start.length ≤ stop.length := by
    by_contra hlt
    exact h (length_expand_of_lt (Nat.lt_of_not_le hlt))
  obtain ⟨hentered, habbreviated, htwoDigit, hexpanded⟩ := layoutStop_of_isDigits hstart hstop
  cases form with
  | asEntered => rw [hentered, expand_of_le hle]
  | abbreviated => rw [habbreviated, hshorten]
  | twoDigit => rw [htwoDigit, hshorten]
  | expanded => exact hexpanded

end Forms

-- No slice is out of range, whatever the pages are. For two numbers every form denotes the same
-- range, and those that leave digits out leave out as many as they can.
theorem layoutStop_keepsRange :
    (∀ form start stop, layoutStop? form start stop = some (layoutStop form start stop)) ∧
      ∀ start stop, isDigits start = true → isDigits stop = true → KeepsRange start stop := by
  refine ⟨layoutStop?_eq, fun start stop hstart hstop => ?_⟩
  have hlength := length_le_expand start stop
  have hne : expand start stop ≠ [] := (isDigits_iff.1 (isDigits_expand hstart hstop)).1
  obtain ⟨-, habbreviated, htwoDigit, -⟩ := layoutStop_of_isDigits hstart hstop
  constructor
  case same => exact expand_layoutStop hstart hstop
  case abbreviated =>
    rw [habbreviated]
    obtain ⟨hsuffix, ⟨hkept, hexpand⟩, hshortest⟩ := isShortest_shorten 1 hlength
    refine ⟨hsuffix, ⟨?_, hexpand⟩, fun other hother hgood => ?_⟩
    · rcases hkept with hlong | heq
      · exact List.length_pos_iff.1 hlong
      · rw [heq]
        exact hne
    · exact hshortest other hother ⟨.inl (List.length_pos_iff.2 hgood.1), hgood.2⟩
  case twoDigit =>
    rw [htwoDigit]
    exact isShortest_shorten 2 hlength
  case whole => exact layoutStop_of_length_ne hstart hstop
  case again =>
    intro form other hother
    exact layoutStop_congr hstart (isDigits_layoutStop hstart hstop form) hstop
      (expand_layoutStop hstart hstop form) hother

-- The same last page in each of the forms.
theorem keepsRange_of_thousand :
    let start := "1000".toList
    let stop := "009".toList
    isDigits start = true ∧ isDigits stop = true ∧ expand start stop = "1009".toList ∧
      layoutStop .abbreviated start stop = "9".toList ∧
      layoutStop .twoDigit start stop = "09".toList ∧ KeepsRange start stop := by
  intro start stop
  have hstart : isDigits start = true := by decide
  have hstop : isDigits stop = true := by decide
  exact ⟨hstart, hstop, by decide, by decide, by decide,
    layoutStop_keepsRange.2 start stop hstart hstop⟩

end Referencing.Value
