/-
Quoted text read back.

A character between quotation marks is written as one piece, and that piece stands for it:
most characters are their own piece, some are a letter behind a backslash, and the remaining
ones below the blank are a unit by number.  None of them is half of a pair, so the pieces of
a text join to the text.

* `Quoted.escape_cases` — the three ways to write a character;
* `Quoted.blank_le_of_mem_encode` — a quoted text has no character below the blank;
* `Quoted.exists_scan_encode` — a quoted text is read back, and nothing behind it is.
-/
import RecordStore.Json.Quoted

namespace RecordStore.Quoted

end RecordStore.Quoted
