/-
  Tagdown.Display.Guide

  The syntax guide: every marker of a table with the names that stand for it,
  and an example line for each marker.
-/

import Tagdown.Display.Preview
import Tagdown.Tag.Alias

namespace Tagdown
namespace Display

open Style (paint)

/-- The row of a group: its names, a sample block and what the block is. -/
def guideRow (on : Bool) (group : AliasGroup) : Text :=
  "   ".toList ++ Text.padEnd 24 (List.intercalate ", ".toList group.names) ++
    ' ' :: paint on (.coloured .green) (group.marker ++ " text".toList) ++
    ' ' :: paint on .dim ('(' :: Tag.describe group.marker ++ [')'])

/-- The example line of a group, with its first name. -/
def guideExample? (group : AliasGroup) : Option Text :=
  group.names.head?.map fun name => "   ".toList ++ Block.tagLine name "Example".toList

/-- The syntax guide of a table. A table without tags has no examples. -/
def guide (on : Bool) (table : TagTable) : Text :=
  let groups := table.aliases
  let examples := groups.filterMap guideExample?
  Text.joinLines <|
    [paint on (.boldColoured .cyan) "Syntax Guide".toList, rule, [],
     "Write one tag per line: PREFIX(content)".toList, []] ++
    groups.map (guideRow on) ++
    (if examples.isEmpty then []
     else [] :: paint on (.boldColoured .yellow) "Example:".toList :: examples)

end Display
end Tagdown
