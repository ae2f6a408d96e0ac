import Imx6Gateway.Board.JsonC
import Imx6Gateway.Library.JsonText

namespace Imx6Gateway
namespace Link

open Library Board

/-!
# The JSON libraries of the two programs

A message is printed by one program's library and read by the other's.  JSON
is a standard, so each library reads what the other one prints; the board's
library prints objects without white space.  Everything that crosses between
the programs in this development crosses through an `Exchange`.  A line end
after a text does no harm.

A C program can put an infinite or undefined number into an object.  Its
library then prints a word that is no JSON, and the other library refuses the
text; in the tree such a number is a null.
-/

structure Exchange where
  board : JsonC
  pc : JsonCodec
  pc_reads : forall json, json.Wire Json.maxDepth -> pc.parse (board.print json) = some json
  board_reads : forall json, json.Wire Json.maxDepth -> board.parse (pc.print json) = some json
  pc_reads_line : forall json, json.Wire Json.maxDepth ->
    pc.parse (board.print json ++ "\n") = some json
  board_compact : board.toJsonCodec.Compact
  boardNonFinite : Json -> String
  pc_refuses : forall json, pc.parse (boardNonFinite json) = none

/-- Two libraries that run. -/
def Exchange.jsonText : Exchange where
  board := JsonC.jsonText
  pc := JsonText.codec false
  pc_reads := JsonText.parse_print true
  board_reads := JsonText.parse_print false
  pc_reads_line := JsonText.parse_print_line true
  board_compact := JsonText.codec_compact true
  boardNonFinite := fun _ => "Infinity"
  pc_refuses := fun _ => by decide +kernel

end Link
end Imx6Gateway
