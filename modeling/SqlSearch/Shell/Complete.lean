import SqlSearch.Text.Letter
import SqlSearch.Text.Digit
import SqlSearch.Text.Lower
/-! Word completion. The word is the run of letters, digits, `_`, `.` and `@` that ends at the
cursor; the candidates are the keywords that start with it up to case, each once, in increasing
order. The line splits into the text before the word, the candidates, and the text from the
cursor on. -/
namespace SqlSearch.Shell

/-- Whether a character belongs to a word. -/
def isWordChar (c : Char) : Bool :=
  Text.isLetter c || Text.isDigit c || c = '_' || c = '.' || c = '@'

/-- The text before the word at the cursor, the candidates, and the text after the cursor.
The cursor counts characters and stops at the end of the line. -/
def completeWord (keywords : List String) (line : String) (pos : Nat) :
    String × List String × String :=
  let cs := line.toList
  let pos := min pos cs.length
  let before := cs.take pos
  let word := (before.reverse.takeWhile isWordChar).reverse
  let head := before.take (before.length - word.length)
  let stem := Text.lower (String.ofList word)
  let found := keywords.foldl (fun acc kw =>
    if (Text.lower kw).startsWith stem ∧ !acc.contains kw then acc ++ [kw] else acc) []
  (String.ofList head, found.mergeSort (· ≤ ·), String.ofList (cs.drop pos))

end SqlSearch.Shell
