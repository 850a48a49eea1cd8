import Handheld.Journal.Entry

/-!
# Listings

How a journal is written out, one line for each entry: a call as the name of what is called
with its arguments, a diagnostic as its level and its message.  A log of calls to a native
core is written with the names of the requests.
-/

namespace Handheld

namespace Text

/-- A call: a name and the arguments in parentheses. -/
def call (name : String) (arguments : List String) : String :=
  name ++ "(" ++ ", ".intercalate arguments ++ ")"

end Text

/-- The name of a function in a listing. -/
def NativeFunction.name : NativeFunction → String
  | .malloc => "malloc"
  | .free => "free"
  | .create => "create"
  | .destroy => "destroy"
  | .step => "step"
  | .screenPointer => "screen_pointer"
  | .screenWidth => "screen_width"
  | .screenHeight => "screen_height"
  | .setButtonState => "set_button_state"

def NativeFunction.ofName? (text : String) : Option NativeFunction :=
  all.find? fun function => function.name == text

/-- The name of a function's requests in a log of calls. -/
def NativeFunction.requestName : NativeFunction → String
  | .malloc => "Malloc"
  | .free => "Free"
  | .create => "Create"
  | .destroy => "Destroy"
  | .step => "Step"
  | .screenPointer => "ScreenPointer"
  | .screenWidth => "ScreenWidth"
  | .screenHeight => "ScreenHeight"
  | .setButtonState => "SetButtonState"

/-- A request as the call of a function with words. -/
def Request.line (request : Request) : String :=
  Text.call request.function.name (request.operands.map toString)

/-- A request in a log of calls, in which buttons and their states have names. -/
def Request.text : Request → String
  | .setButtonState handle button state =>
    Text.call "SetButtonState" [toString handle.raw, button.name, state.name]
  | request => Text.call request.function.requestName (request.operands.map toString)

/-- A pixel with its channels. -/
def Pixel.text : Pixel → String
  | .rgb red green blue => Text.call "Rgb" [toString red, toString green, toString blue]
  | .rgba red green blue alpha =>
    Text.call "Rgba" [toString red, toString green, toString blue, toString alpha]

def SurfaceRequest.line : SurfaceRequest → String
  | .resize width height => Text.call "resize" [toString width, toString height]
  | .draw frame scale =>
    Text.call "draw"
      [toString frame.width, toString frame.height, frame.encoding.name, toString scale]

def HostCall.line : HostCall → String
  | .refresh _ => "refresh"
  | .frameComplete frames => Text.call "frame_complete" [toString frames]
  | .reportError cause => Text.call "report_error" [cause.message]

def Diagnostic.line [Clockwork] (note : Diagnostic) : String :=
  note.level.name ++ " " ++ note.message

def Entry.line [Clockwork] : Entry → String
  | .native request _ => request.line
  | .surface request _ => request.line
  | .host call => call.line
  | .diagnostic note => note.line

end Handheld
