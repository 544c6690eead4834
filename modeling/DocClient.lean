import DocClient.Binary64
import DocClient.Decimal.Shortest
import DocClient.Text.Basic
import DocClient.Text.Utf8
import DocClient.Text.Wide
import DocClient.Text.Blank
import DocClient.Value.Basic
import DocClient.Text.Printable
import DocClient.Value.Text
import DocClient.Json.Read
import DocClient.Json.Write
import DocClient.Error
import DocClient.Decimal.Read
import DocClient.Document.Schema
import DocClient.Document.Record
import DocClient.Document.Adapter
import DocClient.Document.Attribute
import DocClient.Value.Items
import DocClient.Query.Find
import DocClient.Query.View
import DocClient.Reply
import DocClient.Text.Ranges
import DocClient.Text.Case
import DocClient.Idna.Repertoire
import DocClient.Idna.Composed
import DocClient.Idna.Direction
import DocClient.Idna.Context
import DocClient.Idna.Punycode
import DocClient.Idna.Label
import DocClient.Http.Url
import DocClient.Http.Wire
import DocClient.Changes.Framing
import DocClient.Changes.Feed
import DocClient.Http.Session
import DocClient.Database.Basic
import DocClient.Database.Batch
import DocClient.Database.Views
import DocClient.Database.Find
import DocClient.Changes.Stream
import DocClient.Text.Escaped
import DocClient.Config
import DocClient.Proofs.Http.Exchange
import DocClient.Proofs.Query.RoundTrip
import DocClient.Proofs.Document.Envelope
import DocClient.Proofs.Changes.Lines
import DocClient.Proofs.Changes.Rounds
import DocClient.Proofs.Changes.Bounded
import DocClient.Proofs.Changes.Since
import DocClient.Proofs.Changes.Requests
import DocClient.Proofs.Changes.Log
import DocClient.Proofs.Changes.Continuous
import DocClient.Proofs.Database.Held
import DocClient.Proofs.Database.Submit
import DocClient.Proofs.Database.FindAll
import DocClient.Proofs.Http.Failures
import DocClient.Proofs.Database.FailedSubmission
import DocClient.Proofs.Database.Paging
import DocClient.Proofs.Changes.Cancel
import DocClient.Proofs.Changes.Buffer
import DocClient.Proofs.Changes.Skipping
import DocClient.Proofs.Database.WriteBack
import DocClient.Proofs.Text.Utf8
import DocClient.Proofs.Http.Path
import DocClient.Proofs.Database.FindFailures
import DocClient.Proofs.Document.Lockstep
import DocClient.Proofs.Database.Upsert
import DocClient.Proofs.Database.FailedReplies
