import OrderOfGrowth.Text.Blank

/-!
# Screens

A screen has lines of some width, and it has pictures for names between two colons. Which names
these are is up to the screen.
-/

namespace OrderOfGrowth.Terminal

/-- How many places a line has, and what is shown for a name between two colons, if there is a
picture for it. The names of pictures have neither brackets nor backslashes. -/
structure Screen where
  columns : Nat
  picture : List Char → Option (List Char)
  plainName : ∀ name, (picture name).isSome = true → '[' ∉ name ∧ '\\' ∉ name

namespace Screen

/-- Lines of 160 places and no pictures. -/
def usual : Screen := ⟨160, fun _ => none, by simp⟩

end Screen

/-- What stands before the first colon of a text, if there is one and no blank comes before it. -/
def nameBeforeColon? : List Char → Option (List Char)
  | [] => none
  | c :: rest =>
    if c = ':' then some []
    else if Text.isBlank c then none
    else (nameBeforeColon? rest).map (c :: ·)

/-- A text with pictures in place of their names between colons. A colon that ends a name begins
no other one. `skip` characters belong to the name before. -/
def showPicturesFrom (picture : List Char → Option (List Char)) : Nat → List Char → List Char
  | _, [] => []
  | skip + 1, _ :: rest => showPicturesFrom picture skip rest
  | 0, c :: rest =>
    match if c = ':' then nameBeforeColon? rest else none with
    | some name =>
      (picture name).getD (':' :: name ++ [':']) ++ showPicturesFrom picture (name.length + 1) rest
    | none => c :: showPicturesFrom picture 0 rest

/-- A text with pictures in place of their names between colons. -/
def Screen.showPictures (screen : Screen) (text : List Char) : List Char :=
  showPicturesFrom screen.picture 0 text

end OrderOfGrowth.Terminal
