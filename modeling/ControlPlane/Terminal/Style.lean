/-!
# Colours on a terminal

A styled text stands between the codes that turn its style on and the one that
turns every style off. Without colours it stands alone.
-/

set_option autoImplicit false

namespace ControlPlane.Terminal

inductive Style where
  | success
  | failure
  | notice
  | detail
  deriving DecidableEq

namespace Style

def codes : Style → String
  | success => "\x1b[32m\x1b[1m"
  | failure => "\x1b[31m\x1b[1m"
  | notice => "\x1b[33m"
  | detail => "\x1b[2m"

def reset : String := "\x1b[0m"

def paint (colours : Bool) (style : Style) (text : String) : String :=
  if colours then style.codes ++ text ++ reset else text

end Style

/-- Whether to use colours: on a terminal unless the first variable says no, and anywhere else
if the second one says yes. The text for no is a zero. -/
def wantsColours (onTerminal : Bool) (allowed forced : Option String) : Bool :=
  (onTerminal && allowed ≠ some "0") || (forced.isSome && forced ≠ some "0")

end ControlPlane.Terminal
