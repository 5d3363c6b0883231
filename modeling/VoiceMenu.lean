import VoiceMenu.Callback.Script
import VoiceMenu.Files.Tree
import VoiceMenu.Json.Reader
import VoiceMenu.Main
import VoiceMenu.Proofs.Session.CycleProperties
import VoiceMenu.Proofs.Flow.DeclarationProperties
import VoiceMenu.Proofs.Flow.BuiltProperties
import VoiceMenu.Proofs.Flow.WellFormedProperties
import VoiceMenu.Proofs.Flow.AcceptanceProperties
import VoiceMenu.Proofs.Flow.FileProperties
import VoiceMenu.Proofs.Flow.JsonFormProperties
import VoiceMenu.Proofs.Key.GrammarProperties
import VoiceMenu.Proofs.Interpreter.KeyLookupProperties
import VoiceMenu.Proofs.Interpreter.ResponseProperties
import VoiceMenu.Proofs.Interpreter.StepLimitProperties
import VoiceMenu.Proofs.Interpreter.RunProperties
import VoiceMenu.Proofs.Call.RequestProperties
import VoiceMenu.Proofs.Call.ContinuityProperties
import VoiceMenu.Proofs.Call.SeparationProperties
import VoiceMenu.Proofs.Interpreter.SpellingProperties
import VoiceMenu.Proofs.Interpreter.ConstantProperties
import VoiceMenu.Proofs.Interpreter.CircleProperties
import VoiceMenu.Proofs.Interpreter.VisitProperties
import VoiceMenu.Proofs.Interpreter.DigitsProperties
import VoiceMenu.Proofs.Call.RecordProperties
import VoiceMenu.Proofs.Call.FallbackProperties
import VoiceMenu.Proofs.Call.AcceptedKeysProperties
import VoiceMenu.Proofs.Call.RepetitionProperties
import VoiceMenu.Proofs.Interpreter.KeyOrderProperties
import VoiceMenu.Proofs.Interpreter.GatherProperties
import VoiceMenu.Proofs.Interpreter.IdleProperties
import VoiceMenu.Proofs.Interpreter.RollbackProperties
import VoiceMenu.Proofs.Interpreter.PromptProperties
import VoiceMenu.Proofs.CommandLine.PreviewProperties
