import WildBuzzard.Ipc.RoundTrip
import WildBuzzard.Dom.Moves
import WildBuzzard.Parser.Chunks
import WildBuzzard.Handles.Runs
import WildBuzzard.Runtime.Queue
import WildBuzzard.Net.Limits
import WildBuzzard.Net.Retry
import WildBuzzard.Net.Confinement
import WildBuzzard.Layout.FlexPlan
import WildBuzzard.Script.Starving
import WildBuzzard.Ui.AddressBuffer
import WildBuzzard.Ui.Commits
import WildBuzzard.Media.AvcConfiguration
