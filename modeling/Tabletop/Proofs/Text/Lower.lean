import Tabletop.Proofs.Text.Blank

/-!
# Lower case once and for all

A character of a lower-case form is its own lower-case form, so a text that was lower-cased stays as
it is. White space around a text stays as it is too, and what is inside is lower-cased as if it
stood alone, so it does not matter whether a text is first trimmed or first lower-cased.
-/

namespace Tabletop.Text

/-! ## Characters -/

/-- Whether a character is its own lower-case form, whatever its neighbours are. -/
def staysLower (c : Char) : Bool :=
  c != '\u03a3' && lowerChar c == [c]

namespace CaseShift

/-- The last code point to which a run moves. -/
def lastImage (run : CaseShift) : Nat :=
  run.image + (run.last - run.first)

/-- Whether all images of a run lie outside of another run or between the code points that it
moves. -/
def misses (run other : CaseShift) : Bool :=
  Nat.blt run.lastImage other.first || Nat.blt other.last run.image ||
    (other.stride == 2 && (run.stride == 2 || run.first == run.last) &&
      run.image % 2 != other.first % 2)

/-- Whether all images of a run lie beyond the plain characters, apart from white space and from
the letters whose lower-case form is an exception. Only the Kelvin sign has a plain letter as its
image. -/
def landsBeyond (run : CaseShift) : Bool :=
  (run.image == 'k'.toNat && run.first == run.last) ||
    ((Nat.ble 128 run.image && Nat.blt run.lastImage 0xd800 ||
        Nat.ble 0xe000 run.image && Nat.blt run.lastImage 0x110000) &&
      ('\u0130'.toNat :: '\u03a3'.toNat :: blankCodes).all fun code =>
        Nat.blt code run.image || Nat.blt run.lastImage code)

theorem of_moved
    {run : CaseShift} {code image : Nat} (moved : run.apply? code = some image) :
    run.first ≤ code ∧ code ≤ run.last ∧ (code - run.first) % run.stride = 0 ∧
      image = run.image + (code - run.first) := by
  rw [ CaseShift.apply?] at moved
  split at moved
  · rename_i inside
    simp only [Bool.and_eq_true, decide_eq_true_eq, beq_iff_eq] at inside
    exact ⟨inside.1.1, inside.1.2, inside.2, (Option.some.inj moved).symm⟩
  · cases moved

theorem unmoved_of_misses
    {run other : CaseShift} {code image : Nat} (missed : run.misses other = true)
    (moved : run.apply? code = some image) :
    other.apply? image = none := by
  obtain ⟨first, last, even, isImage⟩ := of_moved moved
  have unmoved :
      ¬(other.first ≤ image ∧ image ≤ other.last ∧ (image - other.first) % other.stride = 0) := by
    simp only [misses, lastImage, Bool.or_eq_true, Bool.and_eq_true, Nat.blt_eq, beq_iff_eq,
      bne_iff_ne] at missed
    rcases missed with (before | behind) | ⟨⟨otherEven, single⟩, parity⟩
    · omega
    · omega
    · rw [otherEven]
      rcases single with runEven | single
      · rw [runEven] at even
        omega
      · omega
  rw [ CaseShift.apply?]
  apply if_neg
  simpa [and_assoc] using unmoved

end CaseShift

theorem loweredTable_misses_itself :
    (loweredTable.all fun run => loweredTable.all run.misses) = true := by
  decide +kernel

theorem loweredTable_landsBeyond : (loweredTable.all CaseShift.landsBeyond) = true := by
  decide +kernel

/-- The image of a run stays as it is, and it is no white space. -/
theorem stays_of_moved
    {run : CaseShift} {code image : Nat} (listed : run ∈ loweredTable)
    (moved : run.apply? code = some image) :
    staysLower (Char.ofNat image) = true ∧ isBlank (Char.ofNat image) = false := by
  obtain ⟨first, last, -, isImage⟩ := CaseShift.of_moved moved
  have lands := List.all_eq_true.1 loweredTable_landsBeyond run listed
  simp only [CaseShift.landsBeyond, CaseShift.lastImage, Bool.or_eq_true, Bool.and_eq_true,
    beq_iff_eq, Nat.ble_eq, Nat.blt_eq, List.all_eq_true] at lands
  rcases lands with ⟨isKelvin, single⟩ | ⟨beyond, apart⟩
  · have isLetter : image = 'k'.toNat := by omega
    rw [isLetter]
    decide
  · have valid : image.isValidChar := by
      unfold Nat.isValidChar
      omega
    have sameCode : (Char.ofNat image).toNat = image := by
      rw [Char.ofNat, dif_pos valid]
      rfl
    have notPlain : ¬(Char.ofNat image).toNat < 128 := by omega
    have other {c : Char} (member : c.toNat ∈ '\u0130'.toNat :: '\u03a3'.toNat :: blankCodes) :
        Char.ofNat image ≠ c := by
      rintro rfl
      have outside := apart _ member
      omega
    have unmoved : shiftCase loweredTable (Char.ofNat image) = Char.ofNat image := by
      have noRun :
          loweredTable.findSome? (fun other => other.apply? (Char.ofNat image).toNat) = none := by
        rw [List.findSome?_eq_none_iff, sameCode]
        intro otherRun otherListed
        have misses := List.all_eq_true.1 loweredTable_misses_itself run listed
        exact CaseShift.unmoved_of_misses (List.all_eq_true.1 misses otherRun otherListed)
          moved
      rw [shiftCase, noRun]
      rfl
    constructor
    · have notSigma : Char.ofNat image ≠ '\u03a3' := other (by decide)
      have notDottedI : Char.ofNat image ≠ '\u0130' := other (by decide)
      simp [staysLower, lowerChar, notPlain, notSigma, notDottedI, unmoved]
    · cases blank : isBlank (Char.ofNat image) with
      | false => rfl
      | true =>
          have member := mem_blankCodes_of_isBlank blank
          exact absurd rfl (other (List.mem_cons_of_mem _ (List.mem_cons_of_mem _ member)))

/-- The characters into which a single one is lower-cased. -/
theorem mem_lowerBetween_cases
    {before after : List Char} {c x : Char} (member : x ∈ lowerBetween before c after) :
    (c.toNat < 128 ∧ x = c.toLower) ∨ (x = c ∧ staysLower c = true) ∨
      x ∈ ['i', '\u0307', '\u03c2', '\u03c3'] ∨
      ∃ run ∈ loweredTable, ∃ image, run.apply? c.toNat = some image ∧ x = Char.ofNat image := by
  rw [lowerBetween] at member
  by_cases sigma : c = '\u03a3'
  · rw [if_pos sigma, List.mem_singleton] at member
    right; right; left
    rw [member]
    split <;> decide
  · rw [if_neg sigma, lowerChar] at member
    by_cases plain : c.toNat < 128
    · rw [if_pos plain, List.mem_singleton] at member
      exact Or.inl ⟨plain, member⟩
    · rw [if_neg plain] at member
      by_cases dotted : c = '\u0130'
      · rw [if_pos dotted] at member
        right; right; left
        exact List.mem_append_left ['\u03c2', '\u03c3'] member
      · rw [if_neg dotted, List.mem_singleton] at member
        cases moved : loweredTable.findSome? fun run => run.apply? c.toNat with
        | none =>
            have unmoved : shiftCase loweredTable c = c := by
              rw [shiftCase, moved]
              rfl
            rw [unmoved] at member
            right; left
            exact ⟨member, by simp [staysLower, lowerChar, sigma, plain, dotted, unmoved]⟩
        | some image =>
            have isImage : shiftCase loweredTable c = Char.ofNat image := by
              rw [shiftCase, moved]
              rfl
            obtain ⟨run, listed, byRun⟩ := List.exists_of_findSome?_eq_some moved
            right; right; right
            exact ⟨run, listed, image, byRun, member.trans isImage⟩

theorem staysLower_of_mem_lowerBetween
    {before after : List Char} {c x : Char} (member : x ∈ lowerBetween before c after) :
    staysLower x = true := by
  rcases mem_lowerBetween_cases member with ⟨plain, rfl⟩ | ⟨rfl, stays⟩ | few | moved
  · exact of_plain (fun c => staysLower c.toLower) plain (by decide)
  · exact stays
  · have all : (['i', '\u0307', '\u03c2', '\u03c3'].all staysLower) = true := by decide
    exact List.all_eq_true.1 all x few
  · obtain ⟨run, listed, image, byRun, rfl⟩ := moved
    exact (stays_of_moved listed byRun).1

theorem solid_of_mem_lowerBetween
    {before after : List Char} {c x : Char} (solid : isBlank c = false)
    (member : x ∈ lowerBetween before c after) :
    isBlank x = false := by
  rcases mem_lowerBetween_cases member with ⟨plain, rfl⟩ | ⟨rfl, -⟩ | few | moved
  · have same : (isBlank c.toLower == isBlank c) = true :=
      of_plain (fun c => isBlank c.toLower == isBlank c) plain (by decide)
    rw [beq_iff_eq.1 same, solid]
  · exact solid
  · have all : (['i', '\u0307', '\u03c2', '\u03c3'].all fun c => !isBlank c) = true := by decide
    simpa using List.all_eq_true.1 all x few
  · obtain ⟨run, listed, image, byRun, rfl⟩ := moved
    exact (stays_of_moved listed byRun).2

/-! ## Texts -/

theorem lowerAfter_eq_self
    {text : List Char} (stays : ∀ c ∈ text, staysLower c = true) (before : List Char) :
    lowerAfter before text = text := by
  induction text generalizing before with
  | nil => rfl
  | cons c rest inductionHypothesis =>
      have single := stays c List.mem_cons_self
      simp only [staysLower, Bool.and_eq_true, bne_iff_ne, beq_iff_eq] at single
      have restStays : ∀ c ∈ rest, staysLower c = true :=
        fun other member => stays other (List.mem_cons_of_mem c member)
      rw [lowerAfter, lowerBetween, if_neg single.1, single.2, inductionHypothesis restStays]
      rfl

theorem staysLower_of_mem_lowerAfter
    {before text : List Char} : ∀ c ∈ lowerAfter before text, staysLower c = true := by
  induction text generalizing before with
  | nil => simp [lowerAfter]
  | cons c rest inductionHypothesis =>
      intro x member
      rw [lowerAfter] at member
      rcases List.mem_append.1 member with first | later
      · exact staysLower_of_mem_lowerBetween first
      · exact inductionHypothesis x later

/-- What is in lower case stays as it is. -/
theorem lower_lower (text : String) : lower (lower text) = lower text := by
  rw [lower, lower, String.toList_ofList, lowerAfter_eq_self staysLower_of_mem_lowerAfter]

/-! ## White space around texts -/

theorem lowerBetween_of_isBlank
    {c : Char} (blank : isBlank c = true) (before after : List Char) :
    lowerBetween before c after = [c] := by
  have single := lowersAlone_of_isBlank blank
  simp only [lowersAlone, Bool.and_eq_true, bne_iff_ne, beq_iff_eq] at single
  rw [lowerBetween, if_neg single.1, single.2, toLower_of_isBlank blank]

theorem lowerAfter_append_of_blanks
    {blanks : List Char} (blank : ∀ c ∈ blanks, isBlank c = true) (before text : List Char) :
    lowerAfter before (blanks ++ text) = blanks ++ lowerAfter (blanks.reverse ++ before) text := by
  induction blanks generalizing before with
  | nil => rfl
  | cons c rest inductionHypothesis =>
      have restBlank : ∀ c ∈ rest, isBlank c = true :=
        fun other member => blank other (List.mem_cons_of_mem c member)
      rw [List.cons_append, lowerAfter, lowerBetween_of_isBlank (blank c List.mem_cons_self),
        inductionHypothesis restBlank, List.reverse_cons, List.append_assoc]
      rfl

/-- White space hides what is beyond it from the letters before it. -/
theorem any_isCased_append
    {wall : List Char} (blank : ∀ c ∈ wall.head?, isBlank c = true) (text : List Char) :
    ((text ++ wall).dropWhile isPassedOver).head?.any isCased =
      (text.dropWhile isPassedOver).head?.any isCased := by
  induction text with
  | nil =>
      cases wall with
      | nil => rfl
      | cons c rest =>
          have neither : (!isPassedOver c && !isCased c) = true :=
            of_isBlank (fun c => !isPassedOver c && !isCased c) (blank c rfl) (by decide +kernel)
          simp only [Bool.and_eq_true, Bool.not_eq_true'] at neither
          simp [neither.1, neither.2]
  | cons c rest inductionHypothesis =>
      rw [List.cons_append, List.dropWhile_cons, List.dropWhile_cons]
      split
      · exact inductionHypothesis
      · rfl

theorem lowerBetween_append
    {wall farWall : List Char} (blank : ∀ c ∈ wall.head?, isBlank c = true)
    (farBlank : ∀ c ∈ farWall.head?, isBlank c = true) (before : List Char) (c : Char)
    (after : List Char) :
    lowerBetween (before ++ wall) c (after ++ farWall) = lowerBetween before c after := by
  have ends : endsWord (before ++ wall) (after ++ farWall) = endsWord before after := by
    rw [endsWord, endsWord, any_isCased_append blank, any_isCased_append farBlank]
  rw [lowerBetween, lowerBetween, ends]

/-- Between white space a text is lower-cased as if it stood alone. -/
theorem lowerAfter_append
    {wall farWall : List Char} (blank : ∀ c ∈ wall.head?, isBlank c = true)
    (farBlank : ∀ c ∈ farWall.head?, isBlank c = true) (before text : List Char) :
    lowerAfter (before ++ wall) (text ++ farWall) =
      lowerAfter before text ++ lowerAfter (text.reverse ++ (before ++ wall)) farWall := by
  induction text generalizing before with
  | nil => rfl
  | cons c rest inductionHypothesis =>
      have further := inductionHypothesis (c :: before)
      rw [List.cons_append] at further
      rw [List.cons_append, lowerAfter, lowerAfter, lowerBetween_append blank farBlank, further,
        List.reverse_cons, List.append_assoc, List.append_assoc]
      rfl

theorem lowerAfter_concat (before text : List Char) (c : Char) :
    ∃ front, lowerAfter before (text ++ [c]) = front ++ lowerBetween (text.reverse ++ before) c [] := by
  induction text generalizing before with
  | nil => exact ⟨[], by simp [lowerAfter]⟩
  | cons first rest inductionHypothesis =>
      obtain ⟨front, split⟩ := inductionHypothesis (first :: before)
      refine ⟨lowerBetween before first (rest ++ [c]) ++ front, ?_⟩
      rw [List.cons_append, lowerAfter, split, List.reverse_cons, List.append_assoc,
        List.append_assoc]
      rfl

theorem lowerBetween_ne_nil (before : List Char) (c : Char) (after : List Char) :
    lowerBetween before c after ≠ [] := by
  rw [lowerBetween, lowerChar]
  split
  · simp
  · split
    · simp
    · split <;> simp

/-- The lower-case form of a trimmed text is trimmed. -/
theorem Trimmed.lowerAfter
    {text : List Char} (trimmed : Trimmed text) : Trimmed (lowerAfter [] text) := by
  constructor
  case head =>
    intro x isHead
    cases text with
    | nil => cases isHead
    | cons c rest =>
        cases forms : lowerBetween [] c rest with
        | nil => exact absurd forms (lowerBetween_ne_nil [] c rest)
        | cons first others =>
            rw [Text.lowerAfter, forms] at isHead
            cases isHead
            have member : x ∈ lowerBetween [] c rest := by
              rw [forms]
              exact List.mem_cons_self
            exact solid_of_mem_lowerBetween (trimmed.head c rfl) member
  case last =>
    intro x isLast
    rcases List.eq_nil_or_concat text with rfl | ⟨init, c, rfl⟩
    · cases isLast
    · rw [List.concat_eq_append] at trimmed isLast
      have solid : isBlank c = false := trimmed.last c List.getLast?_concat
      obtain ⟨front, split⟩ := lowerAfter_concat [] init c
      rw [split, List.getLast?_append] at isLast
      cases final : (lowerBetween (init.reverse ++ []) c []).getLast? with
      | none => exact absurd (List.getLast?_eq_none_iff.1 final) (lowerBetween_ne_nil _ c [])
      | some y =>
          rw [final] at isLast
          cases isLast
          exact solid_of_mem_lowerBetween solid (List.mem_of_getLast? final)

/-- It does not matter whether a text is first trimmed or first lower-cased. -/
theorem trim_lower (text : String) :
    trim (lower text).toList = (lower (String.ofList (trim text.toList))).toList := by
  obtain ⟨opening, closing, split, opens, closes⟩ := exists_trim text.toList
  have opensReverse : ∀ c ∈ opening.reverse.head?, isBlank c = true :=
    fun c isHead => opens c (List.mem_reverse.1 (List.mem_of_mem_head? isHead))
  have closesHead : ∀ c ∈ closing.head?, isBlank c = true :=
    fun c isHead => closes c (List.mem_of_mem_head? isHead)
  have inside := lowerAfter_append opensReverse closesHead [] (trim text.toList)
  have behind (before : List Char) : lowerAfter before closing = closing := by
    have only := lowerAfter_append_of_blanks closes before []
    rw [List.append_nil] at only
    rw [only]
    exact List.append_nil closing
  rw [lower, lower, String.toList_ofList, String.toList_ofList, String.toList_ofList]
  conv => lhs; rw [split]
  rw [lowerAfter_append_of_blanks opens, List.append_nil]
  rw [List.nil_append, behind] at inside
  rw [inside]
  exact (trimmed_trim text.toList).lowerAfter.trim_append opens closes

end Tabletop.Text
