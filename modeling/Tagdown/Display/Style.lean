/-
  Tagdown.Display.Style

  Colours and weights of terminal text. A painted text stands between the
  sequence that switches its style on and the one that resets the terminal;
  behind every reset inside it the style is switched on again.

  Main statement: `paint_off`, without colour a text is left as it is.
-/

import Tagdown.Text.Basic

namespace Tagdown

/-- The colours in use. -/
inductive Colour where
  | red
  | green
  | yellow
  | blue
  | cyan
  deriving DecidableEq, Repr

namespace Colour

/-- The terminal code of a colour. -/
def code : Colour → Text
  | red => "31".toList
  | green => "32".toList
  | yellow => "33".toList
  | blue => "34".toList
  | cyan => "36".toList

end Colour

/-- The look of a piece of text. -/
inductive Style where
  | bold
  | dim
  | coloured (c : Colour)
  | boldColoured (c : Colour)
  deriving DecidableEq, Repr

namespace Style

/-- The terminal codes of a style. -/
def codes : Style → Text
  | bold => ['1']
  | dim => ['2']
  | coloured c => c.code
  | boldColoured c => '1' :: ';' :: c.code

/-- The escape character. -/
def escape : Char := '\x1b'

/-- The sequence that switches a style on. -/
def opening (s : Style) : Text :=
  escape :: '[' :: s.codes ++ ['m']

/-- The sequence that resets the terminal. -/
def reset : Text :=
  [escape, '[', '0', 'm']

/-- The text with `again` behind every reset in it. -/
def reopen (again : Text) : Text → Text
  | [] => []
  | '\x1b' :: '[' :: '0' :: 'm' :: rest => reset ++ again ++ reopen again rest
  | c :: rest => c :: reopen again rest

/-- The text in the style, if colours are on. -/
def paint (on : Bool) (s : Style) (t : Text) : Text :=
  if on then s.opening ++ reopen s.opening t ++ reset else t

@[simp]
theorem paint_off (s : Style) (t : Text) : paint false s t = t :=
  rfl

end Style
end Tagdown
