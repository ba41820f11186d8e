import ChainFeed.Text.Utf16
import ChainFeed.Text.Utf8

/-!
# Byte order marks

Bytes may begin with a **mark** that says how the text behind it is written: in UTF-8, or in UTF-16
with one or the other order of bytes. Bytes without a mark are UTF-8. The mark is no part of the
text.
-/

namespace ChainFeed.Text

/-- The text of bytes that may begin with a mark, with the replacement character for each ill-formed
piece. Nothing but the mark tells how the text is written. -/
def decodeMarked : List UInt8 → String
  | 0xEF :: 0xBB :: 0xBF :: bytes => Utf8.decodeLenient bytes
  | 0xFE :: 0xFF :: bytes => Utf16.decodeLenient .highFirst bytes
  | 0xFF :: 0xFE :: bytes => Utf16.decodeLenient .lowFirst bytes
  | bytes => Utf8.decodeLenient bytes

end ChainFeed.Text
