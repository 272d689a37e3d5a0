import Sightline.Log.Setup
import Sightline.Proofs.Mask.Contract
import Sightline.Session.Operation
import Sightline.Setting.Load
import Sightline.Proofs.Mask.Scanner
import Sightline.Proofs.Line.Columns
import Sightline.Proofs.Buffer.Edit
import Sightline.Proofs.Buffer.Journal
import Sightline.Proofs.Session.Run
import Sightline.Proofs.Session.Alignment
import Sightline.Proofs.Session.HiddenText
import Sightline.Proofs.Session.BracketInsertion
import Sightline.Proofs.Session.Journal
import Sightline.Proofs.Line.Rescan
import Sightline.Proofs.Session.FreshView
import Sightline.Proofs.Session.Replacement
import Sightline.Proofs.Codec.RoundTrip
import Sightline.Proofs.Store.Put
import Sightline.Proofs.Text.Newline
import Sightline.Proofs.Buffer.Unbroken
import Sightline.Proofs.TextFile.RoundTrip
import Sightline.Proofs.Session.Reopening
import Sightline.Proofs.Mask.Idempotent
import Sightline.Proofs.Buffer.Wiped
import Sightline.Proofs.Session.Navigation
import Sightline.Proofs.Codec.Canonical
import Sightline.Proofs.Codec.HandOver
import Sightline.Proofs.TextFile.Normalization
import Sightline.Proofs.Session.Atomicity
import Sightline.Proofs.Line.Indexed
import Sightline.Proofs.Buffer.Indexed
import Sightline.Proofs.Buffer.Cursor
import Sightline.Proofs.Session.CursorSafety
import Sightline.Proofs.TextFile.Detection
import Sightline.Proofs.TextFile.Writing
import Sightline.Proofs.Session.Saving
import Sightline.Proofs.Setting.Loading
import Sightline.Proofs.Buffer.Member
import Sightline.Proofs.Session.MemberEnd
import Sightline.Proofs.Log.SetupEnds
import Sightline.Proofs.Log.Thresholds
import Sightline.Proofs.Line.Greedy
import Sightline.Proofs.Text.Substitution
import Sightline.Proofs.Line.Substitution
import Sightline.Proofs.Buffer.Mirror
import Sightline.Proofs.Session.Searching
import Sightline.Proofs.Session.Walking
import Sightline.Proofs.Session.BlockInsertion
import Sightline.Proofs.Session.Uniqueness
import Sightline.Proofs.TextFile.Candidates
import Sightline.Proofs.Mask.Carry
import Sightline.Proofs.Text.Pieces
import Sightline.Proofs.Mask.Tokenwise
import Sightline.Proofs.Session.TokenView
import Sightline.Proofs.Mask.Delimiters
import Sightline.Proofs.Setting.Keys
import Sightline.Proofs.Setting.InPlace
import Sightline.Proofs.Setting.Overlay
import Sightline.Proofs.Setting.Fallback
import Sightline.Proofs.Text.Case
import Sightline.Proofs.Log.Equipment
import Sightline.Proofs.Log.Silence
import Sightline.Proofs.Log.Repetition
