import HostRoster.Main
import HostRoster.Watch.Channel
import HostRoster.Watch.Script
import HostRoster.Trust.Handshake
import HostRoster.Proofs.Freezing
import HostRoster.Proofs.Relist
import HostRoster.Proofs.HostsInStep
import HostRoster.Proofs.Listening
import HostRoster.Proofs.Delivery
import HostRoster.Proofs.Turns
import HostRoster.Proofs.Returning
import HostRoster.Proofs.Stopping
import HostRoster.Proofs.Assembling
import HostRoster.Proofs.Requirements
import HostRoster.Proofs.LastEffect
import HostRoster.Proofs.Arranging
import HostRoster.Proofs.Signalling
import HostRoster.Proofs.Outage
import HostRoster.Proofs.FirstItem
import HostRoster.Proofs.Selection
import HostRoster.Proofs.Items
import HostRoster.Proofs.Leaves
import HostRoster.Proofs.Intake
import HostRoster.Proofs.Records
import HostRoster.Proofs.Resources
import HostRoster.Proofs.SignedWords
import HostRoster.Proofs.Waits
import HostRoster.Proofs.Places
import HostRoster.Proofs.Splitting
import HostRoster.Proofs.Overlay
import HostRoster.Proofs.Violations
import HostRoster.Proofs.WrittenScalars
import HostRoster.Proofs.WrittenDocuments
import HostRoster.Proofs.SettingsFiles
