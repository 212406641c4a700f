/-!
# Blank characters

Which characters count as blank, and the removal of blanks at the ends of a text. Text is worked
on as a list of characters; the functions on `String` that users see wrap these.
-/

namespace ChainScript.Text

/-- The 25 characters with the Unicode property White_Space. -/
def isBlank (c : Char) : Bool :=
  let n := c.toNat
  (9 ≤ n && n ≤ 13) || n == 0x20 || n == 0x85 || n == 0xa0 || n == 0x1680 ||
    (0x2000 ≤ n && n ≤ 0x200a) || n == 0x2028 || n == 0x2029 || n == 0x202f || n == 0x205f ||
    n == 0x3000

/-- The text without the blanks it starts with. -/
def trimLeft (text : List Char) : List Char :=
  text.dropWhile isBlank

/-- The text without the blanks it ends with. -/
def trimRight (text : List Char) : List Char :=
  (text.reverse.dropWhile isBlank).reverse

/-- The text without the blanks at both ends. -/
def trim (text : List Char) : List Char :=
  trimRight (trimLeft text)

/-- Every character of the text is blank. -/
def allBlank (text : List Char) : Bool :=
  text.all isBlank

/-- The blanks at both ends of a `String` are dropped. -/
def trimmed (text : String) : String :=
  String.ofList (trim text.toList)

@[simp]
theorem trimLeft_nil : trimLeft [] = [] := rfl

@[simp]
theorem trim_nil : trim [] = [] := rfl

end ChainScript.Text
