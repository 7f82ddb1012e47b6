import Facet.Trace.Resolution

/-!
# Surfaces

A surface is the part of a window that images are presented on. This module holds what a surface
can do, how one of its possibilities is chosen, and the record of the calls made to it.
-/

namespace Facet

/-- A pixel format of a surface. -/
structure TextureFormat where
  name : String
deriving DecidableEq, Repr

namespace TextureFormat

def bgra8UnormSrgb : TextureFormat := ⟨"Bgra8UnormSrgb"⟩

def rgba8UnormSrgb : TextureFormat := ⟨"Rgba8UnormSrgb"⟩

end TextureFormat

/-- When a finished image replaces the one shown. -/
inductive PresentMode where
  | autoVsync
  | autoNoVsync
  | fifo
  | fifoRelaxed
  | immediate
  | mailbox
deriving DecidableEq, Repr

namespace PresentMode

def name : PresentMode → String
  | autoVsync => "AutoVsync"
  | autoNoVsync => "AutoNoVsync"
  | fifo => "Fifo"
  | fifoRelaxed => "FifoRelaxed"
  | immediate => "Immediate"
  | mailbox => "Mailbox"

/-- The mode of a name. -/
def ofName? (s : String) : Option PresentMode :=
  [autoVsync, autoNoVsync, fifo, fifoRelaxed, immediate, mailbox].find? fun m => m.name == s

end PresentMode

/-- How a surface is blended with what lies behind its window. -/
inductive AlphaMode where
  | auto
  | solid
  | preMultiplied
  | postMultiplied
  | inherited
deriving DecidableEq, Repr

namespace AlphaMode

def name : AlphaMode → String
  | auto => "Auto"
  | solid => "Opaque"
  | preMultiplied => "PreMultiplied"
  | postMultiplied => "PostMultiplied"
  | inherited => "Inherit"

/-- The mode of a name. -/
def ofName? (s : String) : Option AlphaMode :=
  [auto, solid, preMultiplied, postMultiplied, inherited].find? fun m => m.name == s

end AlphaMode

/-- What a surface offers. -/
structure SurfaceCapabilities where
  formats : List TextureFormat
  presentModes : List PresentMode
  alphaModes : List AlphaMode

namespace SurfaceCapabilities

/-- An eight-bit sRGB format where one is preferred and offered, else the first format. -/
def chooseFormat (caps : SurfaceCapabilities) (preferSrgb : Bool) : Option TextureFormat :=
  let srgb := [TextureFormat.bgra8UnormSrgb, TextureFormat.rgba8UnormSrgb].find?
    fun format => preferSrgb && caps.formats.contains format
  srgb.or caps.formats.head?

/-- The mode that waits for the display, or without waiting the fastest one that is offered. -/
def choosePresentMode (caps : SurfaceCapabilities) (vsync : Bool) : PresentMode :=
  let unsynced := [PresentMode.mailbox, PresentMode.immediate].find?
    fun mode => !vsync && caps.presentModes.contains mode
  unsynced.getD .fifo

/-- No blending if offered, else the first mode. -/
def chooseAlphaMode (caps : SurfaceCapabilities) : AlphaMode :=
  if caps.alphaModes.contains .solid then .solid else caps.alphaModes.headD .auto

end SurfaceCapabilities

/-- How a surface is set up. -/
structure SurfaceConfig where
  format : TextureFormat
  size : Extent
  presentMode : PresentMode
  alphaMode : AlphaMode
  /-- How many frames may be queued. -/
  latency : UInt32
deriving DecidableEq

/-- Why no image could be acquired. -/
inductive SurfaceError where
  | timeout
  | outdated
  | lost
  | outOfMemory
  | other
deriving DecidableEq, Repr

namespace SurfaceError

def name : SurfaceError → String
  | timeout => "Timeout"
  | outdated => "Outdated"
  | lost => "Lost"
  | outOfMemory => "OutOfMemory"
  | other => "Other"

/-- The error of a name. -/
def ofName? (s : String) : Option SurfaceError :=
  [timeout, outdated, lost, outOfMemory, other].find? fun e => e.name == s

/-- The text shown to the user. -/
def message : SurfaceError → String
  | timeout => "A timeout was encountered while trying to acquire the next frame"
  | outdated => "The underlying surface has changed, and therefore the swap chain must be updated"
  | lost => "The swap chain has been lost and needs to be recreated"
  | outOfMemory => "There is no more memory left to allocate a new frame"
  | other => "Acquiring a texture failed with a generic error. "
    ++ "Check error callbacks for more information"

end SurfaceError

/-- What is done after a failed acquisition. -/
inductive SurfaceAction where
  /-- Set the surface up again. -/
  | reconfigure
  /-- Leave this frame out. -/
  | skipFrame
  /-- Give up. -/
  | fatal
deriving DecidableEq, Repr

namespace SurfaceAction

def name : SurfaceAction → String
  | reconfigure => "Reconfigure"
  | skipFrame => "SkipFrame"
  | fatal => "Fatal"

/-- The action that fits an error. -/
def classify : SurfaceError → SurfaceAction
  | .lost | .outdated => reconfigure
  | .outOfMemory => fatal
  | .timeout | .other => skipFrame

end SurfaceAction

/-- A call made to a surface or, in the case of `notify`, to its window. -/
inductive SurfaceCall where
  | configure (config : SurfaceConfig)
  /-- An attempt to acquire an image, with the error if it failed. -/
  | acquire (failure : Option SurfaceError)
  /-- The window is told that an image is about to be presented. -/
  | notify
  /-- The commands of a frame are submitted and its image is presented. -/
  | present
deriving DecidableEq

/-- Whether a call sets the surface up. -/
def SurfaceCall.isConfigure : SurfaceCall → Bool
  | configure _ => true
  | _ => false

/-- Whether a call acquires an image or tries to. -/
def SurfaceCall.isAcquire : SurfaceCall → Bool
  | acquire _ => true
  | _ => false

end Facet
