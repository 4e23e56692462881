import VoiceCalc.Main
import VoiceCalc.Service
import VoiceCalc.Command
import VoiceCalc.Decimal.Notation
import VoiceCalc.Proofs.Chunks
import VoiceCalc.Proofs.Glue
import VoiceCalc.Proofs.GluePasses
import VoiceCalc.Proofs.OrderIndependence
import VoiceCalc.Proofs.EngineSteps
import VoiceCalc.Proofs.CaptureHandoff
import VoiceCalc.Proofs.EndOnStop
import VoiceCalc.Proofs.CommandRanges
import VoiceCalc.Proofs.Interpreting
import VoiceCalc.Proofs.HostCalls
import VoiceCalc.Proofs.ListeningStatus
import VoiceCalc.Proofs.AudioFeedback
import VoiceCalc.Proofs.PageCapture
import VoiceCalc.Proofs.PassOrder
import VoiceCalc.Proofs.ReadingFaults
import VoiceCalc.Proofs.NumeralWords
import VoiceCalc.Proofs.MissingControls
import VoiceCalc.Proofs.HistoryBuffer
import VoiceCalc.Proofs.LowerCase
import VoiceCalc.Proofs.TokenShape
import VoiceCalc.Proofs.StatusExpiry
import VoiceCalc.Proofs.CheckedSettings
