import Nearcade.Source.Internal

/-!
# Source — Capture

`src/capture.c` on Linux, as the parent process sees it: one FFmpeg child at a time; and the texts
the child makes of the configuration before it becomes FFmpeg.
-/

namespace Nearcade.Capture
open Text

/-- `ffmpeg_capture`. -/
structure State where
  pid : Int
  active : Bool
  deriving DecidableEq

/-- All bytes zero. -/
def State.zero : State := ⟨0, false⟩

/-- What the two `waitpid(…, WNOHANG)` of `capture_stop` return. -/
structure Waits where
  first : Int
  second : Int
  deriving DecidableEq

/-- `capture_init`. -/
def captureInit : NearcadeError × State := (.ok, .zero)

/-- `capture_start`, where `fork` returns `pid` to the parent. -/
def captureStart (pid : Int) (st : State) : NearcadeError × State × List Effect :=
  if st.active then (.ok, st, [])
  else if pid < 0 then (.errCapture, st, [])
  else (.ok, ⟨pid, true⟩, [.fork pid])

/-- What `capture_stop` does to the child: SIGTERM, and SIGKILL if it is still there after two
looks. -/
def reapChild (w : Waits) (pid : Int) : List Effect :=
  [.kill pid .sigterm, .waitpid pid true] ++
    if w.first = 0 then
      .waitpid pid true ::
        if w.second = 0 then [.kill pid .sigkill, .waitpid pid false] else []
    else []

/-- `capture_stop`. -/
def captureStop (w : Waits) (st : State) : State × List Effect :=
  if st.active = true ∧ 0 < st.pid then (⟨0, false⟩, reapChild w st.pid) else (st, [])

/-- `capture_shutdown`. -/
def captureShutdown (w : Waits) (st : State) : State × List Effect := captureStop w st

/-- A capture module that was just initialised has nothing to shut down. -/
@[simp] theorem captureShutdown_zero (w : Waits) : captureShutdown w .zero = (.zero, []) := by
  simp [captureShutdown, captureStop, State.zero]

/-! ### The child -/

/-- `int` multiplication; `ov` is what a product outside `int` becomes. -/
def mulInt (ov : Int → Int) (a b : Int) : Int := if InInt (a * b) then a * b else ov (a * b)

/-- `res`, `br`, `fps_str` and `gop_str`. -/
structure EncoderArgs where
  res : Bytes
  br : Bytes
  fpsStr : Bytes
  gopStr : Bytes
  deriving DecidableEq

/-- The four `snprintf` of `capture_start`. -/
def encoderArgs (ov : Int → Int) (cfg : NearcadeConfig) : EncoderArgs where
  res := snprintf 32 (decimalInt cfg.screenWidth ++ bytes "x" ++ decimalInt cfg.screenHeight)
  br := snprintf 32 (decimalInt (cfg.maxBitrate.tdiv 1000) ++ bytes "k")
  fpsStr := snprintf 8 (decimalInt cfg.fps)
  gopStr := snprintf 8 (decimalInt (mulInt ov cfg.fps 2))

/-- `detect_vaapi`: whether the first line that `popen` reads, cut at seven bytes, begins with
`yes`; then the device. -/
def detectVaapi (popen : Option Bytes) : Option Bytes :=
  match popen with
  | none => none
  | some line =>
      if bytes "yes" <+: snprintf 8 line then some (snprintf 64 (bytes "/dev/dri/renderD128"))
      else none

/-- The arguments of `execlp("ffmpeg", …)`, in the branch for the encoder that was found. -/
def ffmpegArgv (ov : Int → Int) (cfg : NearcadeConfig) (popen : Option Bytes) : List Bytes :=
  let a := encoderArgs ov cfg
  match detectVaapi popen with
  | some device =>
      [bytes "ffmpeg", bytes "-hide_banner", bytes "-loglevel", bytes "error",
       bytes "-f", bytes "x11grab", bytes "-framerate", a.fpsStr, bytes "-video_size", a.res,
       bytes "-i", bytes ":0", bytes "-vf", bytes "format=nv12,hwupload",
       bytes "-vaapi_device", device, bytes "-c:v", bytes "h264_vaapi",
       bytes "-profile:v", bytes "high", bytes "-b:v", a.br, bytes "-bf", bytes "0",
       bytes "-g", a.gopStr, bytes "-tune", bytes "zerolatency", bytes "-f", bytes "mp4",
       bytes "-movflags", bytes "empty_moov+default_base_moof+frag_keyframe", bytes "pipe:1"]
  | none =>
      [bytes "ffmpeg", bytes "-hide_banner", bytes "-loglevel", bytes "error",
       bytes "-f", bytes "x11grab", bytes "-framerate", a.fpsStr, bytes "-video_size", a.res,
       bytes "-i", bytes ":0", bytes "-c:v", bytes "libx264", bytes "-preset", bytes "ultrafast",
       bytes "-tune", bytes "zerolatency", bytes "-b:v", a.br, bytes "-bf", bytes "0",
       bytes "-g", a.gopStr, bytes "-f", bytes "mp4",
       bytes "-movflags", bytes "empty_moov+default_base_moof+frag_keyframe", bytes "pipe:1"]

end Nearcade.Capture
