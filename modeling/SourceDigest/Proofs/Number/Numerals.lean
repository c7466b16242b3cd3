import SourceDigest.Value

/-! The characters of number text: digits, signs, points, the mark of an exponent and the letters of
what is not finite. -/

namespace SourceDigest

open List

def isNumeral (c : Char) : Bool :=
  c.isDigit || ['.', '-', '+', 'e', 'i', 'n', 'f', 'a'].contains c

/-- A text without any other character. -/
def Numerals (text : List Char) : Prop :=
  ∀ c ∈ text, isNumeral c = true

namespace Numerals

variable {c : Char} {text more : List Char}

theorem nil : Numerals [] := by
  simp [Numerals]

theorem cons (hc : isNumeral c = true) (h : Numerals text) : Numerals (c :: text) :=
  forall_mem_cons.mpr ⟨hc, h⟩

theorem append (h : Numerals text) (hmore : Numerals more) : Numerals (text ++ more) :=
  forall_mem_append.mpr ⟨h, hmore⟩

theorem take (h : Numerals text) (n : Nat) : Numerals (text.take n) :=
  fun c hc => h c (mem_of_mem_take hc)

theorem drop (h : Numerals text) (n : Nat) : Numerals (text.drop n) :=
  fun c hc => h c (mem_of_mem_drop hc)

theorem replicate (hc : isNumeral c = true) (n : Nat) : Numerals (List.replicate n c) := by
  intro d hd
  rw [eq_of_mem_replicate hd, hc]

end Numerals

namespace Layout

theorem numerals_digits (n : Nat) : Numerals (digits n) := by
  intro c hc
  have hdigit : c.isDigit = true := Nat.isDigit_of_mem_toDigits (by decide) (by decide) hc
  rw [isNumeral, hdigit, Bool.true_or]

theorem numerals_exponentText (e : Int) : Numerals (exponentText e) := by
  have hdigits := numerals_digits e.natAbs
  unfold exponentText
  refine .cons rfl (.cons ?_ ?_)
  · split <;> rfl
  · split
    · exact hdigits.cons rfl
    · exact hdigits

theorem numerals_decimal (layout : Layout) (d : Shortest.Decimal) :
    Numerals (layout.decimal d) := by
  have hdigits := numerals_digits d.digits
  have hzeros := Numerals.replicate (show isNumeral '0' = true from rfl)
  simp only [decimal]
  split
  · split
    · refine (hdigits.append (hzeros _)).append ?_
      split
      · exact .cons rfl (.cons rfl .nil)
      · exact .nil
    · split
      · exact (hdigits.take _).append (.cons rfl (hdigits.drop _))
      · exact (Numerals.cons rfl (.cons rfl (hzeros _))).append hdigits
  · split
    · rename_i first second rest heq
      rw [heq] at hdigits
      obtain ⟨hfirst, hrest⟩ := forall_mem_cons.mp hdigits
      exact (Numerals.cons hfirst (.cons rfl hrest)).append (numerals_exponentText _)
    · exact hdigits.append (numerals_exponentText _)

theorem numerals_signed (negative : Bool) {text : List Char} (h : Numerals text) :
    Numerals (signed negative text) := by
  unfold signed
  split
  · exact h.cons rfl
  · exact h

end Layout

open Layout

theorem numerals_intText (n : Int) : Numerals (Value.intText n).toList := by
  rw [Value.intText, String.toList_ofList]
  exact numerals_signed _ (numerals_digits _)

namespace Number

theorem numerals_pointed (n places : Nat) : Numerals (pointed n places) := by
  have hpadded := (Numerals.replicate (show isNumeral '0' = true from rfl)
    (places + 1 - (digits n).length)).append (numerals_digits n)
  simp only [pointed]
  split
  · exact hpadded
  · exact (hpadded.take _).append (.cons rfl (hpadded.drop _))

theorem numerals_undefined : Numerals "nan".toList := by
  have hletters : "nan".toList = ['n', 'a', 'n'] := rfl
  rw [hletters]
  exact .cons rfl (.cons rfl (.cons rfl .nil))

theorem numerals_infinite (negative : Bool) :
    Numerals (String.ofList (signed negative "inf".toList)).toList := by
  have hletters : "inf".toList = ['i', 'n', 'f'] := rfl
  rw [String.toList_ofList, hletters]
  exact numerals_signed _ (.cons rfl (.cons rfl (.cons rfl .nil)))

theorem numerals_fixed (places : Nat) (x : Float) : Numerals (fixed places x).toList := by
  unfold fixed
  split
  · exact numerals_undefined
  · exact numerals_infinite _
  · simp only [String.toList_ofList]
    exact numerals_signed _ (numerals_pointed _ _)

theorem numerals_general (x : Float) : Numerals (general x).toList := by
  unfold general
  split
  · exact numerals_undefined
  · exact numerals_infinite _
  · split
    · rw [String.toList_ofList]
      exact numerals_signed _ (.cons rfl .nil)
    · simp only [String.toList_ofList]
      exact numerals_signed _ (numerals_decimal _ _)

end Number

end SourceDigest
