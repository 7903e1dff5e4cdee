import MazeChase.Direction
import MazeChase.Position
import MazeChase.Ident
import MazeChase.AgentKind
import MazeChase.Clock
import MazeChase.Random.Generator
import MazeChase.Text.Lines
import MazeChase.Text.Quoted
import MazeChase.Board.Map
import MazeChase.Strategy
import MazeChase.Game.Setup
import MazeChase.Game.Run
import MazeChase.Drawing
import MazeChase.Datum
import MazeChase.Main
import MazeChase.Proofs.Abort
import MazeChase.Proofs.Whereabouts
import MazeChase.Proofs.Separation
import MazeChase.Proofs.Outline
import MazeChase.Proofs.Overrun
import MazeChase.Proofs.Arrivals
import MazeChase.Proofs.Readiness
import MazeChase.Proofs.Unhindered
import MazeChase.Proofs.Bystanders
import MazeChase.Proofs.Reinforcements
import MazeChase.Proofs.Decisions
import MazeChase.Proofs.Record
import MazeChase.Proofs.Steering
import MazeChase.Proofs.Torus
import MazeChase.Proofs.Layout
import MazeChase.Proofs.Undirected
import MazeChase.Proofs.Marks
import MazeChase.Proofs.Reading
import MazeChase.Proofs.Redrawing
import MazeChase.Proofs.Telling
import MazeChase.Proofs.Stoppage
import MazeChase.Proofs.Lookup
import MazeChase.Proofs.Headcount
import MazeChase.Proofs.Fairness
import MazeChase.Proofs.OpenRoom
import MazeChase.Proofs.Pursuit
import MazeChase.Proofs.Approach
import MazeChase.Proofs.Chasers
import MazeChase.Proofs.Blocking
import MazeChase.Proofs.Inspection
import MazeChase.Proofs.Margins
import MazeChase.Proofs.Meetings
import MazeChase.Proofs.Beginning
import MazeChase.Proofs.Sightings
import MazeChase.Proofs.Reordering
import MazeChase.Proofs.Exchange
import MazeChase.Proofs.Distances
import MazeChase.Proofs.Rotation
import MazeChase.Proofs.Seeding
