/-!
# Themes

A theme gives colours to kinds of messages.  A painted text stands between the code that sets
the colour and the code that takes it back; without a colour it is left as it is.
-/

namespace Quarantine

/-- The kinds of messages. -/
inductive Tone where
  | success
  | info
  | warning
  | error
  deriving DecidableEq

/-- The colours of a terminal, by their codes. -/
inductive Color where
  | red
  | green
  | yellow
  | white
  deriving DecidableEq

def Color.code : Color → Nat
  | red => 31
  | green => 32
  | yellow => 33
  | white => 37

structure Theme where
  color : Tone → Option Color

namespace Theme

def standard : Theme where
  color
    | .success => some .green
    | .info => some .white
    | .warning => some .yellow
    | .error => some .red

/-- The theme without colours. -/
def empty : Theme := ⟨fun _ => none⟩

def escape (code : Nat) : String := "\x1b[" ++ toString code ++ "m"

/-- The code of the colour that a terminal has of itself. -/
def defaultCode : Nat := 39

def paint (theme : Theme) (colored : Bool) (tone : Tone) (text : String) : String :=
  match theme.color tone, colored with
  | some color, true => escape color.code ++ text ++ escape defaultCode
  | _, _ => text

/-- What stands before a message. -/
def label : Tone → String
  | .success | .info => "[piisieve]"
  | .warning => "[piisieve WARN]"
  | .error => "[piisieve ERROR]"

/-- A message as a line. -/
def message (theme : Theme) (colored : Bool) (tone : Tone) (text : String) : String :=
  theme.paint colored tone (label tone) ++ " " ++ text ++ "\n"

end Theme
end Quarantine
