import Workflow.Catalogue.Basic

namespace Workflow.Catalogue

def requiredInput (type : ValueType) (description : String) : InputSchema :=
  ⟨some type, some true, some (some description), none⟩

def optionalInput (type : ValueType) (description : String) : InputSchema :=
  ⟨some type, some false, some (some description), none⟩

def output (type : ValueType) (description : String) : OutputSchema :=
  ⟨some type, some (some description)⟩

def claude : WorkerType where
  id := "claude"
  name := "Claude Script Generator"
  description := "Generate structured scene descriptions for video production pipelines"
  input :=
    [("prompt", requiredInput .text "The prompt to send for script generation"),
      ("topic", optionalInput .text "Optional topic for script generation context")]
  output :=
    [("scenes",
      output .array "Array of scene objects with visual_prompt and voice_text properties")]
  config :=
    [("model", .str "claude-sonnet-4-20250514"),
      ("max_tokens", .int 4096)]

def minimax : WorkerType where
  id := "minimax"
  name := "MiniMax Video Generator"
  description := "Generate video clips from text prompts"
  input :=
    [("visual_prompt", requiredInput .text "Visual description for video generation"),
      ("duration",
        { optionalInput .number "Video duration in seconds" with default? := some (.json (.int 5)) })]
  output :=
    [("videoUrl", output .text "URL to the generated video file")]
  config :=
    [("model", .str "video-01"),
      ("endpoint", .str "https://api.minimax.io/v1/video/generate")]

def elevenlabs : WorkerType where
  id := "elevenlabs"
  name := "ElevenLabs Voice Generator"
  description := "Generate voice narration from text"
  input :=
    [("voice_text", requiredInput .text "Text to convert to speech narration"),
      ("voice_id", optionalInput .text "Voice ID to use for generation")]
  output :=
    [("audioUrl", output .text "URL to the generated audio file")]
  config :=
    [("model_id", .str "eleven_multilingual_v2"),
      ("endpoint", .str "https://api.elevenlabs.io/v1/text-to-speech")]

def shotstack : WorkerType where
  id := "shotstack"
  name := "Shotstack Video Assembler"
  description := "Assemble video and audio clips into a final composed video"
  input :=
    [("scenes",
        requiredInput .array "Array of scene objects with videoUrl and audioUrl properties"),
      ("timeline", optionalInput .object "Optional timeline configuration (overrides scenes)")]
  output :=
    [("finalVideoUrl", output .text "URL to the final assembled video"),
      ("duration", output .number "Total duration of the final video in seconds")]
  config :=
    [("resolution", .str "sd"),
      ("format", .str "mp4"),
      ("fps", .int 25),
      ("endpoint", .str "https://api.shotstack.io/v1/render")]

def builtin : Catalogue := [claude, minimax, elevenlabs, shotstack].foldl register []

end Workflow.Catalogue
