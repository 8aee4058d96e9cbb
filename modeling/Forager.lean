import Forager.Amend
import Forager.Beliefs
import Forager.Blackboard
import Forager.Choice
import Forager.Codec.Decision
import Forager.Codec.Trace
import Forager.Codec.World
import Forager.CommandLine
import Forager.CommandLine.Arguments
import Forager.CommandLine.Report
import Forager.Config
import Forager.Config.File
import Forager.Controller
import Forager.Controller.Rendering
import Forager.Decimal.Layout
import Forager.Decimal.Shortest
import Forager.Document
import Forager.Document.Decode
import Forager.Document.Json
import Forager.Document.Plain
import Forager.Document.Settled
import Forager.Document.Storage
import Forager.Document.Yaml
import Forager.Document.Yaml.Cursor
import Forager.Document.Yaml.Scalar
import Forager.Document.Yaml.Token
import Forager.Host
import Forager.Intent
import Forager.Library
import Forager.Library.Basic
import Forager.Library.Combat
import Forager.Library.Exploration
import Forager.Library.Goals
import Forager.Library.Houses
import Forager.Library.Items
import Forager.Library.Resources
import Forager.Main
import Forager.NameMap
import Forager.Node
import Forager.Node.Outline
import Forager.Node.Walk
import Forager.Perception
import Forager.Perception.Enemies
import Forager.Perception.Houses
import Forager.Perception.Items
import Forager.Proofs.Admission
import Forager.Proofs.Attribution
import Forager.Proofs.Branches
import Forager.Proofs.Closest
import Forager.Proofs.Collecting
import Forager.Proofs.Conduct
import Forager.Proofs.Conservation
import Forager.Proofs.Contents
import Forager.Proofs.Dealings
import Forager.Proofs.Deeds
import Forager.Proofs.Deliberation
import Forager.Proofs.Destinations
import Forager.Proofs.Encounters
import Forager.Proofs.FailedFrames
import Forager.Proofs.Faults
import Forager.Proofs.Finds
import Forager.Proofs.Flattening
import Forager.Proofs.Footprints
import Forager.Proofs.Foremost
import Forager.Proofs.HeldBeliefs
import Forager.Proofs.History
import Forager.Proofs.HouseRounds
import Forager.Proofs.Idempotence
import Forager.Proofs.Independence
import Forager.Proofs.InventoryOrder
import Forager.Proofs.Journals
import Forager.Proofs.JsonReading
import Forager.Proofs.JsonSpelling
import Forager.Proofs.Known
import Forager.Proofs.LeafReactions
import Forager.Proofs.Ledger
import Forager.Proofs.Magnitudes
import Forager.Proofs.Mirror
import Forager.Proofs.Noninterference
import Forager.Proofs.NumberLine
import Forager.Proofs.Outlines
import Forager.Proofs.Pickups
import Forager.Proofs.PistolsKept
import Forager.Proofs.Precedence
import Forager.Proofs.Priorities
import Forager.Proofs.Pursuits
import Forager.Proofs.Reactions
import Forager.Proofs.Recollection
import Forager.Proofs.Reliability
import Forager.Proofs.Remedies
import Forager.Proofs.Reports
import Forager.Proofs.Rounding
import Forager.Proofs.Route
import Forager.Proofs.Rows
import Forager.Proofs.Sessions
import Forager.Proofs.Shortage
import Forager.Proofs.Shots
import Forager.Proofs.Sightings
import Forager.Proofs.Signs
import Forager.Proofs.Slots
import Forager.Proofs.SoftGoals
import Forager.Proofs.StandardWalk
import Forager.Proofs.Steps
import Forager.Proofs.StoredTraces
import Forager.Proofs.Targets
import Forager.Proofs.Transactions
import Forager.Proofs.Turns
import Forager.Proofs.Validation
import Forager.Proofs.Visits
import Forager.Proofs.Walks
import Forager.Scenario
import Forager.Schema
import Forager.Single
import Forager.StandardTree
import Forager.Status
import Forager.Text.Quoted
import Forager.Text.Rendering
import Forager.Text.Shape
import Forager.Trace
import Forager.Tree
import Forager.Tree.Rendering
import Forager.World.Inventory
import Forager.World.Item
import Forager.World.Need
import Forager.World.Percept
import Forager.World.Vec2
