import Toolpath.Main
import Toolpath.Files.Directory
import Toolpath.Editor.EventJson
import Toolpath.Proofs.Editor.Echo
import Toolpath.Proofs.Editor.Freshness
import Toolpath.Proofs.Editor.Timeline
import Toolpath.Proofs.Editor.Delivery
import Toolpath.Proofs.Editor.RingNews
import Toolpath.Proofs.Editor.WholeWord
import Toolpath.Proofs.Table.Stability
import Toolpath.Proofs.Table.Layout
import Toolpath.Proofs.Program.Revisits
import Toolpath.Proofs.Scene.Labelling
import Toolpath.Proofs.Table.AbsoluteMode
import Toolpath.Proofs.Program.LayoutTwice
import Toolpath.Proofs.Scene.RingSelection
import Toolpath.Proofs.Scene.MarkedSpot
import Toolpath.Proofs.Scene.Hover
import Toolpath.Proofs.Number.NumberPattern
import Toolpath.Proofs.Scene.Strokes
import Toolpath.Proofs.Scene.NearestPixel
import Toolpath.Proofs.Scene.TightBounds
import Toolpath.Proofs.Settings.Usable
import Toolpath.Proofs.Settings.Saved
import Toolpath.Proofs.Editor.MatchCursor
import Toolpath.Proofs.Files.Flagging
