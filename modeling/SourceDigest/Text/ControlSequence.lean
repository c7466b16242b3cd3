/-!
Sequences that steer a terminal: an escape character, an opening bracket, parameters,
intermediate characters and one final character. Text that does not go to a terminal is written
without them.
-/

namespace SourceDigest.Text

def between (first last c : Char) : Bool :=
  first ≤ c && c ≤ last

/-- What follows a sequence after its opening bracket, if the sequence is complete. -/
def afterSequence? (text : List Char) : Option (List Char) :=
  match (text.dropWhile (between '0' '?')).dropWhile (between ' ' '/') with
  | c :: rest => if between '@' '~' c then some rest else none
  | [] => none

theorem length_afterSequence? {text rest : List Char} (h : afterSequence? text = some rest) :
    rest.length < text.length := by
  unfold afterSequence? at h
  split at h
  · next c after he =>
    have h₁ := (List.dropWhile_suffix (l := text) (between '0' '?')).length_le
    have h₂ := (List.dropWhile_suffix (l := text.dropWhile (between '0' '?'))
      (between ' ' '/')).length_le
    rw [he] at h₂
    split at h
    · cases h
      simp at h₂
      omega
    · cases h
  · cases h

/-- The sequence at the start of a text is passed over. -/
def sequenceRest? : List Char → Option (List Char)
  | '\x1b' :: '[' :: rest => afterSequence? rest
  | _ => none

theorem length_sequenceRest? {text rest : List Char} (h : sequenceRest? text = some rest) :
    rest.length < text.length := by
  unfold sequenceRest? at h
  split at h
  · have := length_afterSequence? h
    simp only [List.length_cons]
    omega
  · cases h

/-- The text without its sequences, from left to right; `done` holds what stays, the last
character first. -/
def withoutSequences (done text : List Char) : List Char :=
  match _h : sequenceRest? text with
  | some rest => withoutSequences done rest
  | none =>
    match text with
    | [] => done.reverse
    | c :: rest => withoutSequences (c :: done) rest
  termination_by text.length
  decreasing_by
    · exact length_sequenceRest? _h
    · simp

end SourceDigest.Text
