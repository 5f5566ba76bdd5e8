import NodeAdmission.Admission.Operation
import NodeAdmission.Agent.Service
import NodeAdmission.Main
import NodeAdmission.Server.Service
import NodeAdmission.Service.Shutdown
import NodeAdmission.Http.Framing
import NodeAdmission.Proofs.Attempt
import NodeAdmission.Proofs.Expulsion
import NodeAdmission.Proofs.Records
import NodeAdmission.Proofs.Cycle
import NodeAdmission.Proofs.Report
import NodeAdmission.Proofs.Run
import NodeAdmission.Proofs.Provenance
import NodeAdmission.Proofs.Visits
import NodeAdmission.Proofs.Course
import NodeAdmission.Proofs.Rest
import NodeAdmission.Proofs.ControlPlane
import NodeAdmission.Proofs.Address
import NodeAdmission.Proofs.Cooldown
import NodeAdmission.Proofs.Finality
import NodeAdmission.Proofs.Freshness
import NodeAdmission.Proofs.Base64
import NodeAdmission.Proofs.Base64Bits
import NodeAdmission.Proofs.Ciphertext
import NodeAdmission.Proofs.Utf8
import NodeAdmission.Proofs.Tampering
import NodeAdmission.Proofs.JsonText
import NodeAdmission.Proofs.JsonTokens
import NodeAdmission.Proofs.JsonDocument
import NodeAdmission.Proofs.JsonWriting
import NodeAdmission.Proofs.Wire
import NodeAdmission.Proofs.Exchange
import NodeAdmission.Proofs.Honest
import NodeAdmission.Proofs.Outcomes
import NodeAdmission.Proofs.EmptyAddress
import NodeAdmission.Proofs.Fairness
import NodeAdmission.Proofs.Pace
import NodeAdmission.Proofs.Convergence
import NodeAdmission.Proofs.Forwarding
import NodeAdmission.Proofs.Effects
import NodeAdmission.Proofs.Deadline
import NodeAdmission.Proofs.EchoWait
import NodeAdmission.Proofs.Startup
import NodeAdmission.Proofs.Registering
import NodeAdmission.Proofs.Insertion
import NodeAdmission.Proofs.Separation
import NodeAdmission.Proofs.Handover
import NodeAdmission.Proofs.Faults
import NodeAdmission.Proofs.RemoteAnswers
import NodeAdmission.Proofs.Registration
import NodeAdmission.Proofs.JsonMeaning
import NodeAdmission.Proofs.RoundTrip
import NodeAdmission.Proofs.JsonRecords
import NodeAdmission.Proofs.Listing
import NodeAdmission.Proofs.JsonPrefix
import NodeAdmission.Proofs.Truncation
import NodeAdmission.Proofs.StatusListing
import NodeAdmission.Proofs.Configuration
import NodeAdmission.Proofs.Trimming
import NodeAdmission.Proofs.Numerals
import NodeAdmission.Proofs.Requirements
import NodeAdmission.Proofs.LabelLists
import NodeAdmission.Proofs.StatusRequests
import NodeAdmission.Proofs.CommandResults
import NodeAdmission.Proofs.PostedMessages
import NodeAdmission.Proofs.JsonOutput
import NodeAdmission.Proofs.Deeds
import NodeAdmission.Proofs.Endings
import NodeAdmission.Proofs.ExitStatus
import NodeAdmission.Proofs.LastOption
import NodeAdmission.Proofs.KeyTransfer
