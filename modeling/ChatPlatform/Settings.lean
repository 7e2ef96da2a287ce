/-!
# Settings of the chat path

The feature flags and limits the chat path reads. Settings with a limit that is not
positive are rejected when they are loaded, so every limit carries its positivity.
-/

namespace ChatPlatform

/-- The settings the chat path reads. -/
structure ChatSettings where
  /-- Whether conversation memory is on. -/
  conversationHistoryEnabled : Bool := false
  /-- Whether evidence retrieval from the conversation is on. -/
  ebm25Enabled : Bool := false
  /-- Whether document retrieval is on. -/
  chatRagAugmentationEnabled : Bool := false
  /-- Most messages the assembler keeps. -/
  conversationHistoryMaxMessages : Int := 20
  /-- Most characters the assembler keeps. -/
  conversationHistoryMaxChars : Int := 12000
  /-- Most rows the history read returns. -/
  conversationHistoryMaxRows : Int := 2000
  /-- Most characters added to a request. -/
  chatPromptMaxAddedContextChars : Int := 12000
  /-- Most characters of a stored answer. -/
  maxAssistantChars : Int := 8000
  /-- Most characters of a stored error message. -/
  maxErrorMessageChars : Int := 512
  /-- The message limit is positive. -/
  maxMessagesPositive : 0 < conversationHistoryMaxMessages := by decide
  /-- The character limit is positive. -/
  maxCharsPositive : 0 < conversationHistoryMaxChars := by decide
  /-- The row limit is positive. -/
  maxRowsPositive : 0 < conversationHistoryMaxRows := by decide
  /-- The cap on added characters is positive. -/
  maxAddedPositive : 0 < chatPromptMaxAddedContextChars := by decide
  /-- The limit on answers is positive. -/
  maxAssistantPositive : 0 < maxAssistantChars := by decide
  /-- The limit on error messages is positive. -/
  maxErrorMessagePositive : 0 < maxErrorMessageChars := by decide

/-- The settings of a deployment that sets none. -/
def ChatSettings.unset : ChatSettings := {}

end ChatPlatform
