import Handheld.Bench.Core
import Handheld.Checked
import Handheld.CommandLine.Options
import Handheld.CommandLine.Reader
import Handheld.Core.Error
import Handheld.Core.Machine
import Handheld.Core.Memory
import Handheld.Core.Request
import Handheld.Display.Canvas
import Handheld.Display.Error
import Handheld.Display.Host
import Handheld.Display.Surface
import Handheld.Guest.Export
import Handheld.Guest.Linked
import Handheld.Guest.Sample
import Handheld.Guest.Text
import Handheld.Input.Button
import Handheld.Input.Event
import Handheld.Input.Key
import Handheld.Input.Layout
import Handheld.Input.WindowKey
import Handheld.Instant
import Handheld.Journal.Diagnostic
import Handheld.Journal.Entry
import Handheld.Journal.Listing
import Handheld.Main
import Handheld.Picture.Blit
import Handheld.Picture.Frame
import Handheld.Picture.Pixel
import Handheld.Proofs.Protocol.Abiding
import Handheld.Proofs.Protocol.Ledger
import Handheld.Proofs.Protocol.Phase
import Handheld.Proofs.Protocol.Safety
import Handheld.Proofs.Session.Loading
import Handheld.Proofs.Session.Milestone
import Handheld.Proofs.Session.Operation
import Handheld.Queue.Clocked
import Handheld.Queue.Handoff
import Handheld.Rehearsal.Platform
import Handheld.Rehearsal.Script
import Handheld.Rehearsal.Stage
import Handheld.Session.Act
import Handheld.Session.Emulator
import Handheld.Session.FrameLoop
import Handheld.Session.Lifecycle
import Handheld.Session.Pipeline
import Handheld.Session.Region
import Handheld.Session.Statistics
import Handheld.Session.Stopwatch
import Handheld.Session.Translator
import Handheld.Text.Fingerprint
import Handheld.Text.Number
import Handheld.Proofs.Checked
import Handheld.Proofs.Picture.Blit
import Handheld.Proofs.Bench.Drawing
import Handheld.Proofs.Display.Canvas
import Handheld.Proofs.Core.Memory
import Handheld.Proofs.Session.Tick
import Handheld.Proofs.Bench.Answers
import Handheld.Proofs.Session.Moves
import Handheld.Proofs.Bench.Session
import Handheld.Proofs.Session.Execution
import Handheld.Proofs.Bench.Oversize
import Handheld.Proofs.Loop.Course
import Handheld.Proofs.Loop.Lifetime
import Handheld.Proofs.Loop.Quit
import Handheld.Proofs.Session.Presentation
import Handheld.Proofs.Input.Code
import Handheld.Proofs.Session.Capture
import Handheld.Proofs.Session.Fitting
import Handheld.Proofs.Bench.Trials
import Handheld.Proofs.Queue.Passage
import Handheld.Proofs.Session.Resetting
import Handheld.Proofs.Bench.Keys
import Handheld.Proofs.Bench.Endurance
import Handheld.Proofs.Session.Continuation
import Handheld.Proofs.Session.Validation
import Handheld.Proofs.Session.Ending
import Handheld.Proofs.Bench.Calm
import Handheld.Proofs.Bench.Resolution
import Handheld.Proofs.Display.Totality
import Handheld.Proofs.Session.Allocation
import Handheld.Proofs.Bench.Heap
import Handheld.Proofs.Session.Attention
import Handheld.Proofs.Session.Launch
import Handheld.Proofs.Bench.Holding
import Handheld.Proofs.Bench.Residence
import Handheld.Proofs.Picture.Packing
import Handheld.Proofs.Display.History
import Handheld.Proofs.Session.Forwarding
import Handheld.Proofs.Guest.Linking
import Handheld.Proofs.Session.Counting
import Handheld.Proofs.Bench.Refusal
import Handheld.Proofs.Guest.Words
import Handheld.Proofs.Guest.Answers
import Handheld.Proofs.Guest.Areas
import Handheld.Proofs.Guest.Session
import Handheld.Proofs.Session.Access
import Handheld.Proofs.Picture.Grid
import Handheld.Proofs.Guest.Heap
import Handheld.Proofs.Session.Upkeep
import Handheld.Proofs.Guest.Shade
import Handheld.Proofs.Guest.Serving
import Handheld.Proofs.Guest.Picture
import Handheld.Proofs.Queue.Window
import Handheld.Proofs.Session.Timing
