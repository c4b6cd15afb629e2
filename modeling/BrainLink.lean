import BrainLink.Rehearsal.Play
import BrainLink.Rehearsal.Desk
import BrainLink.Rehearsal.Shelf
import BrainLink.Rehearsal.Loopback
import BrainLink.Task.Bench
import BrainLink.Listener.Stand
import BrainLink.LogMode
import BrainLink.Main
import BrainLink.Proofs.Listening
import BrainLink.Proofs.Slots
import BrainLink.Proofs.Course
import BrainLink.Proofs.Crew
import BrainLink.Proofs.Tidiness
import BrainLink.Proofs.Stretches
import BrainLink.Proofs.Turns
import BrainLink.Proofs.Healing
import BrainLink.Proofs.Retention
import BrainLink.Proofs.Closing
import BrainLink.Proofs.Replies
import BrainLink.Proofs.Dialogue
import BrainLink.Proofs.Vigil
import BrainLink.Proofs.Withdrawal
import BrainLink.Proofs.Alignment
import BrainLink.Proofs.Quiescence
import BrainLink.Proofs.Payload
import BrainLink.Proofs.Aftermath
import BrainLink.Proofs.Delivery
import BrainLink.Proofs.Moments
import BrainLink.Proofs.Hearing
import BrainLink.Proofs.Standstill
import BrainLink.Proofs.Accord
import BrainLink.Proofs.Dues
import BrainLink.Proofs.Rehearsals
import BrainLink.Proofs.ByHand
import BrainLink.Proofs.Addresses
import BrainLink.Proofs.Pieces
import BrainLink.Proofs.Hosts
import BrainLink.Proofs.Paths
import BrainLink.Proofs.CallbackUrls
import BrainLink.Proofs.Served
import BrainLink.Proofs.PortRanges
import BrainLink.Proofs.Arguments
import BrainLink.Proofs.Transports
import BrainLink.Proofs.Registering
import BrainLink.Proofs.Steady
import BrainLink.Proofs.Authorities
import BrainLink.Proofs.Commands
import BrainLink.Proofs.Outcomes
import BrainLink.Proofs.Writing
import BrainLink.Proofs.Rising
import BrainLink.Proofs.Members
import BrainLink.Proofs.Projects
import BrainLink.Proofs.Snapshots
import BrainLink.Proofs.Listings
import BrainLink.Proofs.Executing
import BrainLink.Proofs.Lines
import BrainLink.Proofs.Breaks
import BrainLink.Proofs.Markup
import BrainLink.Proofs.Transcript
import BrainLink.Proofs.Styles
import BrainLink.Proofs.BrainUrls
import BrainLink.Proofs.Actions
import BrainLink.Proofs.Exchanges
import BrainLink.Proofs.Upkeep
import BrainLink.Proofs.Benches
