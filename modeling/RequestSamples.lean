import RequestSamples.Proofs.Batch.Acceptance
import RequestSamples.Proofs.Batch.Cutting
import RequestSamples.Proofs.Batch.Stamps
import RequestSamples.Proofs.Crc32c.Burst
import RequestSamples.Proofs.Crc32c.Division
import RequestSamples.Proofs.Decisions
import RequestSamples.Proofs.Generator.Accounting
import RequestSamples.Proofs.Generator.Independence
import RequestSamples.Proofs.Generator.Mandatory
import RequestSamples.Proofs.Generator.Pulls
import RequestSamples.Proofs.Generator.Repetition
import RequestSamples.Proofs.Generator.Spelling
import RequestSamples.Proofs.Generator.TopicIds
import RequestSamples.Proofs.Message.Restore
import RequestSamples.Proofs.Populator.Atomic
import RequestSamples.Proofs.Populator.Groups
import RequestSamples.Proofs.Resolver.Agreement
import RequestSamples.Proofs.Session.Asking
import RequestSamples.Proofs.Session.Inert
import RequestSamples.Proofs.Session.Interleaving
import RequestSamples.Proofs.Session.Populating
import RequestSamples.Proofs.Session.SetUp
import RequestSamples.Proofs.Settings
import RequestSamples.Proofs.Varint.Canonical
import RequestSamples.Proofs.Views
import RequestSamples.Session
import RequestSamples.Uuid.Text
