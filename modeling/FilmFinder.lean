import FilmFinder.Text.Blank
import FilmFinder.Text.Escape
import FilmFinder.Text.Bytes
import FilmFinder.Text.Quoted
import FilmFinder.Number.Layout
import FilmFinder.Number.Reading
import FilmFinder.Duration
import FilmFinder.Keyed
import FilmFinder.Json.Value
import FilmFinder.Json.Reader
import FilmFinder.Json.Record
import FilmFinder.Query
import FilmFinder.Page
import FilmFinder.Film
import FilmFinder.FilmFilter
import FilmFinder.Backoff
import FilmFinder.Settings
import FilmFinder.Engine.Memory
import FilmFinder.Wire.Reply
import FilmFinder.Engine.Link
import FilmFinder.Service
import FilmFinder.Proofs.Query.Unambiguous
import FilmFinder.Proofs.Service.Walk
import FilmFinder.Proofs.Wire.Layout
import FilmFinder.Proofs.Service.History
import FilmFinder.Proofs.Query.Composition
import FilmFinder.Proofs.Film.Attributes
import FilmFinder.Proofs.Service.Account
import FilmFinder.Proofs.Criteria
import FilmFinder.Proofs.Query.Filter
import FilmFinder.Proofs.Service.Window
import FilmFinder.Proofs.Engine.Shared
import FilmFinder.Proofs.Service.Total
import FilmFinder.Proofs.Backoff.Cap
import FilmFinder.Proofs.Query.Sameness
import FilmFinder.Proofs.Wire.Payload
import FilmFinder.Proofs.Query.Clean
import FilmFinder.Proofs.Criteria.NormalForm
import FilmFinder.Proofs.Film.Reading
import FilmFinder.Proofs.Query.Canonical
import FilmFinder.Proofs.Query.CommaList
import FilmFinder.Proofs.Text.Escape
import FilmFinder.Proofs.Backoff.Schedule
import FilmFinder.Proofs.Service.RoundTrips
import FilmFinder.Proofs.Field
