import ModelDepot.Console.Recommended
import ModelDepot.Download.Stepwise
import ModelDepot.Files
import ModelDepot.Main
import ModelDepot.Proofs.Poller.Moves
import ModelDepot.Proofs.Poller.Life
import ModelDepot.Proofs.Poller.Course
import ModelDepot.Proofs.Poller.Decision
import ModelDepot.Proofs.Poller.FirstDecision
import ModelDepot.Proofs.Poller.Settling
import ModelDepot.Proofs.Poller.Stopping
import ModelDepot.Proofs.Poller.Cancellation
import ModelDepot.Proofs.Claims.World
import ModelDepot.Proofs.Claims.Exclusive
import ModelDepot.Proofs.Claims.Ledger
import ModelDepot.Proofs.Claims.Sharing
import ModelDepot.Proofs.Batch.Merging
import ModelDepot.Proofs.Batch.Driving
import ModelDepot.Proofs.Batch.Membership
import ModelDepot.Proofs.Poller.Scenes
import ModelDepot.Proofs.Poller.Clock
import ModelDepot.Proofs.Poller.Deadline
import ModelDepot.Proofs.Poller.Pace
import ModelDepot.Proofs.Poller.Ending
import ModelDepot.Proofs.Config.Loaded
import ModelDepot.Proofs.Number.Order
import ModelDepot.Proofs.Poller.Novelty
import ModelDepot.Proofs.Number.Sum
import ModelDepot.Proofs.Batch.Showing
import ModelDepot.Proofs.Batch.Company
import ModelDepot.Proofs.Batch.Overall
import ModelDepot.Proofs.Reply.Trimming
import ModelDepot.Proofs.Reply.Members
import ModelDepot.Proofs.Reply.Classes
import ModelDepot.Proofs.Poller.Runs
import ModelDepot.Proofs.Poller.Patience
import ModelDepot.Proofs.Poller.Launched
import ModelDepot.Proofs.Batch.Reporting
import ModelDepot.Proofs.Batch.Venture
import ModelDepot.Proofs.Batch.Launch
import ModelDepot.Proofs.Batch.CallOrder
import ModelDepot.Proofs.Batch.Fates
import ModelDepot.Proofs.Batch.StartsFirst
import ModelDepot.Proofs.Batch.Service
import ModelDepot.Proofs.Batch.Execution
import ModelDepot.Proofs.Batch.Rounds
import ModelDepot.Proofs.Poller.Script
import ModelDepot.Proofs.Poller.Account
import ModelDepot.Proofs.Batch.Isolation
import ModelDepot.Proofs.Transport.Choice
import ModelDepot.Proofs.Poller.Conduct
import ModelDepot.Proofs.Client.Errand
import ModelDepot.Proofs.Client.Snapshot
import ModelDepot.Proofs.Json.Equality
import ModelDepot.Proofs.Json.Reordered
import ModelDepot.Proofs.Json.Restoring
import ModelDepot.Proofs.Json.Yielding
import ModelDepot.Proofs.Json.Forms
import ModelDepot.Proofs.Json.Faithful
import ModelDepot.Proofs.Json.Proper
import ModelDepot.Proofs.Reply.Statuses
import ModelDepot.Proofs.Poller.Failing
import ModelDepot.Proofs.Json.Positional
import ModelDepot.Proofs.Json.Named
import ModelDepot.Proofs.Reply.Arrays
import ModelDepot.Proofs.Reply.Objects
import ModelDepot.Proofs.Reply.Listings
import ModelDepot.Proofs.Reply.Respelling
import ModelDepot.Proofs.Batch.Success
import ModelDepot.Proofs.Console.ExitCode
import ModelDepot.Proofs.Claims.Handover
import ModelDepot.Proofs.Path.Spellings
import ModelDepot.Proofs.Number.Words
import ModelDepot.Proofs.Config.Layers
import ModelDepot.Proofs.Transport.Candidates
import ModelDepot.Proofs.Text.Lossless
import ModelDepot.Proofs.Transport.Entering
import ModelDepot.Proofs.Json.Numerals
import ModelDepot.Proofs.Json.ReadBack
import ModelDepot.Proofs.Number.Whole
import ModelDepot.Proofs.Json.Wholes
import ModelDepot.Proofs.Reply.Echoes
import ModelDepot.Proofs.Transport.Serving
import ModelDepot.Proofs.Transport.Scripted
import ModelDepot.Proofs.Transport.Simulated
import ModelDepot.Proofs.Console.Summary
import ModelDepot.Proofs.Number.Rounding
import ModelDepot.Proofs.Console.Sizes
import ModelDepot.Proofs.Gate.Admission
import ModelDepot.Proofs.Gate.Caller
