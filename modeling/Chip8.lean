import Chip8.Listing
import Chip8.Main
import Chip8.Play.Desk
import Chip8.Play.Session
import Chip8.Proofs.Calls
import Chip8.Proofs.Checked.Histories
import Chip8.Proofs.Picture
import Chip8.Proofs.CycleLog
import Chip8.Proofs.TimerHistory
import Chip8.Proofs.Core
import Chip8.Proofs.RandomDraws
import Chip8.Proofs.SplitFrames
import Chip8.Proofs.Plays
import Chip8.Proofs.Reboot
import Chip8.Proofs.KeyHistory
import Chip8.Proofs.Flags
import Chip8.Proofs.ListingText
import Chip8.Proofs.Redraw
import Chip8.Proofs.ScreenShown
import Chip8.Proofs.HexValue
import Chip8.Proofs.Patterns
import Chip8.Proofs.Blocks
import Chip8.Proofs.Footprint
import Chip8.Proofs.Digits
import Chip8.Proofs.Spelling
import Chip8.Proofs.Tracing
import Chip8.Proofs.Rendering
import Chip8.Proofs.Strokes
import Chip8.Proofs.LitPixels
import Chip8.Proofs.Arithmetic
import Chip8.Proofs.StoredRegisters
import Chip8.Proofs.Addressing
import Chip8.Proofs.Controls
import Chip8.Proofs.Waiting
import Chip8.Proofs.EmptyMemory
import Chip8.Proofs.Loads
import Chip8.Proofs.RateWindows
import Chip8.Proofs.StackAnswers
