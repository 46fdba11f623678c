/-
# Ends of lines

Text files end their lines with a line feed, with a carriage return, or with both; read as text, all
three are one line feed.

Key definition: `Text.withLineFeeds`.
-/

namespace Intertype
namespace Text

/-- The text with a line feed at the end of each line. -/
def withLineFeeds : List Char → List Char
  | [] => []
  | '\r' :: '\n' :: rest => '\n' :: withLineFeeds rest
  | c :: rest => (if c = '\r' then '\n' else c) :: withLineFeeds rest

example : withLineFeeds "a\r\nb\rc\n\r\nd".toList = "a\nb\nc\n\nd".toList := by decide

end Text
end Intertype
