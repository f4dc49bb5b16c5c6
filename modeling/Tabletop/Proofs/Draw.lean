import Tabletop.Dice.Roll
import Tabletop.Proofs.Binary

/-!
# Draws and faces

A draw below one makes a face on every die whose sides fit the format, and trays go on handing out
such draws.
-/

namespace Tabletop

/-- A draw whose magnitude is below one. -/
def Draw.BelowOne (draw : Draw) : Prop :=
  ∃ negative units exponent,
    draw = .finite negative units exponent ∧
      (Binary.fraction units exponent).1 < (Binary.fraction units exponent).2

/-- Whether a number is finite. -/
def Binary.isFinite : Binary → Bool
  | .finite _ _ _ => true
  | _ => false

/-- A number of sides that fits the binary format. -/
def FitsBinary (sides : Int) : Prop :=
  (Binary.ofInt sides).isFinite = true

instance (sides : Int) : Decidable (FitsBinary sides) :=
  inferInstanceAs (Decidable ((Binary.ofInt sides).isFinite = true))

theorem FitsBinary.exists_finite {sides : Int} (fits : FitsBinary sides) :
    ∃ negative units exponent, Binary.ofInt sides = .finite negative units exponent := by
  rw [FitsBinary] at fits
  cases rounded : Binary.ofInt sides with
  | finite negative units exponent => exact ⟨negative, units, exponent, rfl⟩
  | infinite negative =>
      rw [rounded] at fits
      cases fits
  | undefined =>
      rw [rounded] at fits
      cases fits

theorem Draw.exists_face
    {draw : Draw} {sides : Int} (below : draw.BelowOne) (fits : FitsBinary sides) :
    ∃ face, draw.face sides = .ok face := by
  obtain ⟨sign, part, partExponent, rfl, belowOne⟩ := below
  obtain ⟨negative, units, exponent, rounded⟩ := fits.exists_finite
  obtain ⟨found, foundExponent, product⟩ := Binary.nearest_mul_finite sign rounded belowOne
  rw [Draw.face, rounded]
  simp only
  rw [product]
  exact ⟨_, rfl⟩

theorem Draw.face_of_not_fits {sides : Int} (tooMany : ¬FitsBinary sides) (draw : Draw) :
    draw.face sides = .error .tooManySides := by
  rw [FitsBinary] at tooMany
  rw [Draw.face]
  cases rounded : Binary.ofInt sides with
  | finite negative units exponent =>
      rw [rounded] at tooMany
      exact absurd rfl tooMany
  | infinite negative => rfl
  | undefined => rfl

/-! ## Trays -/

/-- All draws that a supply still hands out are below one. -/
def Source.BelowOne : Source → Prop
  | .sequence draw position => ∀ later, position ≤ later → (draw later).BelowOne
  | .twister _ => True

/-- All draws that a tray still hands out are below one. -/
def Tray.BelowOne (tray : Tray) : Prop :=
  tray.source.BelowOne

/-- A draw joins the highest bits of two words, 27 of one and 26 of the other. -/
theorem Twister.belowOne_next (state : Twister) : Draw.BelowOne state.next.1 := by
  have bits :
      ∀ high low : UInt32,
        (high >>> 5).toNat * 67108864 + (low >>> 6).toNat < 9007199254740992 := by
    intro high low
    have highBound : (high >>> 5).toNat < 134217728 := by
      have shift : (5 : UInt32).toNat % 32 = 5 := rfl
      rw [UInt32.toNat_shiftRight, Nat.shiftRight_eq_div_pow, shift]
      have := high.toNat_lt
      omega
    have lowBound : (low >>> 6).toNat < 67108864 := by
      have shift : (6 : UInt32).toNat % 32 = 6 := rfl
      rw [UInt32.toNat_shiftRight, Nat.shiftRight_eq_div_pow, shift]
      have := low.toNat_lt
      omega
    omega
  exact ⟨false, _, -53, rfl, bits _ _⟩

theorem Source.BelowOne.next
    {source : Source} (below : source.BelowOne) :
    source.next.1.BelowOne ∧ source.next.2.BelowOne := by
  cases source with
  | sequence draw position =>
      exact ⟨below position (Nat.le_refl _), fun later after => below later (by omega)⟩
  | twister state => exact ⟨state.belowOne_next, trivial⟩

theorem Draw.belowOne_half : Draw.BelowOne Source.half :=
  ⟨false, 1, -1, rfl, by decide⟩

/-- A list of draws below one makes a supply of such draws. -/
theorem Source.belowOne_ofList
    {draws : List Draw} (below : ∀ draw ∈ draws, draw.BelowOne) :
    (Source.ofList draws).BelowOne := by
  have fallback : Draw.BelowOne (draws.getLast?.getD Source.half) := by
    cases last : draws.getLast? with
    | none => exact Draw.belowOne_half
    | some draw => exact below draw (List.mem_of_getLast? last)
  intro later _
  simp only [List.back?_toArray, Array.getD_eq_getD_getElem?, List.getElem?_toArray]
  cases found : draws[later]? with
  | none => exact fallback
  | some draw => exact below draw (List.mem_of_getElem? found)

end Tabletop
