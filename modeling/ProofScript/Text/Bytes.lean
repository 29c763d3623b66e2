/-!
# Positions in bytes

Positions in a text count the bytes of its UTF-8 encoding. A text can be cut where a character begins
or the text ends, and nowhere else, so no character is ever taken apart.
-/
namespace ProofScript.Text

/-- The number of bytes that the text takes up. -/
def byteLength (text : List Char) : Nat :=
  text.foldr (fun c length => c.utf8Size + length) 0

/-- The first `count` bytes of the text and what comes after them, if the text can be cut there. -/
def splitBytes? (count : Nat) : List Char → Option (List Char × List Char)
  | [] => if count = 0 then some ([], []) else none
  | c :: rest =>
    if count = 0 then some ([], c :: rest)
    else if count < c.utf8Size then none
    else (splitBytes? (count - c.utf8Size) rest).map fun parts => (c :: parts.1, parts.2)

/-- The text from byte `start` up to byte `stop`, if these are in order and it can be cut at both. -/
def slice? (start stop : Nat) (text : List Char) : Option (List Char) :=
  if stop < start then none
  else
    (splitBytes? start text).bind fun parts =>
      (splitBytes? (stop - start) parts.2).map Prod.fst

theorem byteLength_cons (c : Char) (rest : List Char) :
    byteLength (c :: rest) = c.utf8Size + byteLength rest := rfl

theorem byteLength_append (left right : List Char) :
    byteLength (left ++ right) = byteLength left + byteLength right := by
  induction left with
  | nil => simp [byteLength]
  | cons c rest ih => simp [byteLength_cons, ih, Nat.add_assoc]

theorem splitBytes?_append (front back : List Char) :
    splitBytes? (byteLength front) (front ++ back) = some (front, back) := by
  induction front with
  | nil => cases back <;> rfl
  | cons c front ih =>
    have positive := c.utf8Size_pos
    rw [List.cons_append, splitBytes?, byteLength_cons, if_neg (by omega), if_neg (by omega),
      Nat.add_sub_cancel_left, ih]
    rfl

theorem splitBytes?_eq_some_iff {count : Nat} {text front back : List Char} :
    splitBytes? count text = some (front, back) ↔
      text = front ++ back ∧ byteLength front = count := by
  constructor
  · intro cut
    induction text generalizing count front back with
    | nil =>
      rw [splitBytes?] at cut
      split at cut
      next start =>
        cases cut
        exact ⟨rfl, start.symm⟩
      next => cases cut
    | cons c rest ih =>
      rw [splitBytes?] at cut
      split at cut
      next start =>
        cases cut
        exact ⟨rfl, start.symm⟩
      next =>
        split at cut
        next => cases cut
        next outside =>
          obtain ⟨⟨front', back'⟩, cut', same⟩ := Option.map_eq_some_iff.mp cut
          obtain ⟨rfl, length⟩ := ih cut'
          cases same
          refine ⟨rfl, ?_⟩
          rw [byteLength_cons, length]
          omega
  · rintro ⟨rfl, rfl⟩
    exact splitBytes?_append front back

/-- What a slice is, and that there is none if the text cannot be cut at both ends. -/
theorem slice?_eq_some_iff {start stop : Nat} {text chars : List Char} :
    slice? start stop text = some chars ↔
      ∃ before after, text = before ++ chars ++ after ∧ byteLength before = start ∧
        start + byteLength chars = stop := by
  unfold slice?
  constructor
  · intro sliced
    split at sliced
    next => cases sliced
    next ordered =>
      obtain ⟨⟨before, rest⟩, first, behind⟩ := Option.bind_eq_some_iff.mp sliced
      obtain ⟨⟨slice, after⟩, second, same⟩ := Option.map_eq_some_iff.mp behind
      obtain ⟨rfl, starts⟩ := splitBytes?_eq_some_iff.mp first
      obtain ⟨split, length⟩ := splitBytes?_eq_some_iff.mp second
      dsimp only at split same
      subst same split
      refine ⟨before, after, (List.append_assoc ..).symm, starts, ?_⟩
      omega
  · rintro ⟨before, after, rfl, rfl, rfl⟩
    rw [if_neg (by omega), List.append_assoc, splitBytes?_append, Option.bind_some,
      Nat.add_sub_cancel_left, splitBytes?_append]
    rfl

-- a character of two bytes is in the slice as a whole or not at all
example : slice? 1 3 ['a', 'é', 'b'] = some ['é'] ∧ slice? 1 2 ['a', 'é', 'b'] = none := by decide

end ProofScript.Text
