namespace Poco.Text

def byteSize : List Char → Nat
  | [] => 0
  | c :: rest => c.utf8Size + byteSize rest

@[simp] theorem byteSize_nil : byteSize [] = 0 := rfl

@[simp] theorem byteSize_cons (c : Char) (rest : List Char) :
    byteSize (c :: rest) = c.utf8Size + byteSize rest := rfl

@[simp] theorem byteSize_append (left right : List Char) :
    byteSize (left ++ right) = byteSize left + byteSize right := by
  induction left with
  | nil => simp
  | cons c rest ih => simp [ih, Nat.add_assoc]

/-- What remains after the first `bytes` bytes. -/
def dropBytes (bytes : Nat) (text : List Char) : Option (List Char) :=
  match bytes, text with
  | 0, text => some text
  | _ + 1, [] => none
  | bytes + 1, c :: rest =>
      if c.utf8Size ≤ bytes + 1 then
        dropBytes (bytes + 1 - c.utf8Size) rest
      else
        none
termination_by structural text

/-- The characters that make up the first `bytes` bytes, after those in `taken`. -/
def takeBytesOnto (taken : Array Char) (bytes : Nat) (text : List Char) : Option (List Char) :=
  match bytes, text with
  | 0, _ => some taken.toList
  | _ + 1, [] => none
  | bytes + 1, c :: rest =>
      if c.utf8Size ≤ bytes + 1 then
        takeBytesOnto (taken.push c) (bytes + 1 - c.utf8Size) rest
      else
        none
termination_by structural text

def takeBytes (bytes : Nat) (text : List Char) : Option (List Char) :=
  takeBytesOnto #[] bytes text

/-- The text between two byte offsets, when both fall between characters and
in order. -/
def sliceBytes (start stop : Nat) (text : List Char) : Option (List Char) :=
  if start ≤ stop then
    (dropBytes start text).bind (takeBytes (stop - start))
  else
    none

end Poco.Text
