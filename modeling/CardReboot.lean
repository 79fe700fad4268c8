import CardReboot.Main
import CardReboot.Rehearsal.Bench
import CardReboot.Rehearsal.CallCheck
import CardReboot.Rehearsal.Reading
import CardReboot.Proofs.TimedRun
import CardReboot.Proofs.DropWindowRun
import CardReboot.Proofs.DropWindowVerdict
import CardReboot.Proofs.StatusPollRun
import CardReboot.Proofs.StepRun
import CardReboot.Proofs.Guarantee
import CardReboot.Proofs.ReadingRun
import CardReboot.Proofs.ObservationOrder
import CardReboot.Proofs.WaitRun
import CardReboot.Proofs.DropCheck
import CardReboot.Proofs.CardChoice
import CardReboot.Proofs.CaseRun
import CardReboot.Proofs.RebootSafety
import CardReboot.Proofs.RecoveryVerdict
import CardReboot.Proofs.CharacterClass
import CardReboot.Proofs.RowShape
import CardReboot.Proofs.RowReading
import CardReboot.Proofs.TableReading
import CardReboot.Proofs.LineReading
import CardReboot.Proofs.PrintedTable
import CardReboot.Proofs.StatusAnswer
import CardReboot.Proofs.CarriedOut
import CardReboot.Proofs.ConsoleFailure
import CardReboot.Proofs.ElapsedTime
import CardReboot.Proofs.WaitTime
import CardReboot.Proofs.CaseTime
import CardReboot.Proofs.DropWindowTrace
import CardReboot.Proofs.WordReading
import CardReboot.Proofs.CommandWords
import CardReboot.Proofs.DeviceCommands
import CardReboot.Proofs.SteadyBench
import CardReboot.Proofs.CaseIsolation
import CardReboot.Proofs.SkippedCase
import CardReboot.Proofs.QueryFault
import CardReboot.Proofs.PasswordSecrecy
import CardReboot.Proofs.ParallelCase
import CardReboot.Proofs.ReportSecrecy
import CardReboot.Proofs.Respelling
import CardReboot.Proofs.ReadSchedule
import CardReboot.Proofs.OctetOrder
import CardReboot.Proofs.RecoveryPasses
import CardReboot.Proofs.RecoveryContainment
import CardReboot.Proofs.ControllerRoles
import CardReboot.Proofs.QuotedArgument
import CardReboot.Proofs.RemovableCards
import CardReboot.Proofs.RowNames
import CardReboot.Proofs.JoinedTables
import CardReboot.Proofs.ReportAccount
import CardReboot.Proofs.ScriptedAnswers
import CardReboot.Proofs.PathKeys
import CardReboot.Proofs.Discovery
import CardReboot.Proofs.AddressedNames
import CardReboot.Proofs.PortNames
import CardReboot.Proofs.JsonNumberReading
import CardReboot.Proofs.JsonStringReading
import CardReboot.Proofs.JsonReading
import CardReboot.Proofs.JsonNumberRecognition
import CardReboot.Proofs.JsonRecognition
import CardReboot.Proofs.NumberTexts
import CardReboot.Proofs.JsonOrder
import CardReboot.Proofs.JsonWriting
import CardReboot.Proofs.Rounding
import CardReboot.Proofs.ShortestDecimal
import CardReboot.Proofs.FractionReading
import CardReboot.Proofs.UpdateDecoding
