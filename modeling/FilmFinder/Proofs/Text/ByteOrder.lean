/-!
# Texts in byte order

Texts are ordered by code point, and so are the bytes that encode them: the encodings of two code
points differ, and where they first do the smaller code point has the smaller byte.
-/
namespace FilmFinder.Text

/-- The bytes that encode a text in UTF-8. -/
def bytes (text : String) : List UInt8 := text.toUTF8.data.toList

variable {low high : Nat} {left right : List UInt8}

end FilmFinder.Text
