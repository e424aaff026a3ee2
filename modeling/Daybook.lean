import Daybook.Calendar.Date
import Daybook.Calendar.Error
import Daybook.Calendar.Instant
import Daybook.Http.Cors
import Daybook.Http.MediaType
import Daybook.Http.Message
import Daybook.Http.Percent
import Daybook.Http.Status
import Daybook.Journal.Entry
import Daybook.Journal.Month
import Daybook.Json.Codec
import Daybook.Json.Fault
import Daybook.Json.Quoted
import Daybook.Json.Reader
import Daybook.Json.Record
import Daybook.Json.Tree
import Daybook.Login.Provider
import Daybook.Login.Settings
import Daybook.Login.User
import Daybook.Main
import Daybook.Proofs.Calendar.DateText
import Daybook.Proofs.Calendar.Days
import Daybook.Proofs.Calendar.InstantText
import Daybook.Proofs.Calendar.MonthCount
import Daybook.Proofs.Calendar.Months
import Daybook.Proofs.Calendar.Spelling
import Daybook.Proofs.Http.Cors
import Daybook.Proofs.Http.FormText
import Daybook.Proofs.Http.HeaderText
import Daybook.Proofs.Journal.CharacterCount
import Daybook.Proofs.Json.Astray
import Daybook.Proofs.Json.Crossing
import Daybook.Proofs.Json.Inversion
import Daybook.Proofs.Json.Nesting
import Daybook.Proofs.Json.Reads
import Daybook.Proofs.Json.Records
import Daybook.Proofs.Json.RoundTrip
import Daybook.Proofs.Json.Scanning
import Daybook.Proofs.Json.Skipping
import Daybook.Proofs.Json.Spelling
import Daybook.Proofs.Login.Addresses
import Daybook.Proofs.Login.Exchange
import Daybook.Proofs.Login.TokenText
import Daybook.Proofs.Service.Accounts
import Daybook.Proofs.Service.Agreement
import Daybook.Proofs.Service.Change
import Daybook.Proofs.Service.DaysToCome
import Daybook.Proofs.Service.Marks
import Daybook.Proofs.Service.MonthView
import Daybook.Proofs.Service.Race
import Daybook.Proofs.Service.Registry
import Daybook.Proofs.Session.Acceptance
import Daybook.Proofs.Session.Conservation
import Daybook.Proofs.Session.CookieHeader
import Daybook.Proofs.Session.Cookies
import Daybook.Proofs.Session.ForeignCookies
import Daybook.Proofs.Session.Lifetime
import Daybook.Proofs.Site.Atomicity
import Daybook.Proofs.Site.Browser
import Daybook.Proofs.Site.Calendar
import Daybook.Proofs.Site.Circulation
import Daybook.Proofs.Site.Dialog
import Daybook.Proofs.Site.Discretion
import Daybook.Proofs.Site.EditableDay
import Daybook.Proofs.Site.Effect
import Daybook.Proofs.Site.History
import Daybook.Proofs.Site.Isolation
import Daybook.Proofs.Site.Issue
import Daybook.Proofs.Site.OfferedDates
import Daybook.Proofs.Site.Origins
import Daybook.Proofs.Site.Pages
import Daybook.Proofs.Site.PastEntries
import Daybook.Proofs.Site.ReadYourWrites
import Daybook.Proofs.Site.Refresh
import Daybook.Proofs.Site.Renewal
import Daybook.Proofs.Site.ServerSession
import Daybook.Proofs.Site.Strangers
import Daybook.Proofs.Store.Calls
import Daybook.Proofs.Store.DateRange
import Daybook.Proofs.Store.Filing
import Daybook.Proofs.Store.Ledger
import Daybook.Proofs.Text.ByteOrder
import Daybook.Proofs.Text.Decimal
import Daybook.Proofs.Text.Hex
import Daybook.Proofs.Text.Split
import Daybook.Proofs.Text.Utf8
import Daybook.Proofs.Text.Uuid
import Daybook.Proofs.Token.Acceptance
import Daybook.Proofs.Token.Base64
import Daybook.Proofs.Token.Claims
import Daybook.Proofs.Token.Expiry
import Daybook.Proofs.Token.Signing
import Daybook.Proofs.Zone.Eventful
import Daybook.Proofs.Zone.MonthStart
import Daybook.Proofs.Zone.MonthsAround
import Daybook.Proofs.Zone.SetBack
import Daybook.Proofs.Zone.StartOfDay
import Daybook.Proofs.Zone.Unrolling
import Daybook.Service.Accounts
import Daybook.Service.Action
import Daybook.Service.Journal
import Daybook.Session.Basic
import Daybook.Session.Cookie
import Daybook.Settings.Arguments
import Daybook.Settings.Basic
import Daybook.Settings.Flag
import Daybook.Site.Basic
import Daybook.Site.Origins
import Daybook.Site.Problem
import Daybook.Site.Route
import Daybook.Store.Entries
import Daybook.Store.Error
import Daybook.Store.Table
import Daybook.Store.Users
import Daybook.Text.Blank
import Daybook.Text.Decimal
import Daybook.Text.Hex
import Daybook.Text.Real
import Daybook.Text.Split
import Daybook.Text.Utf8
import Daybook.Text.Visible
import Daybook.Token.Base64
import Daybook.Token.Basic
import Daybook.Token.Claims
import Daybook.Token.Digest
import Daybook.Token.Header
import Daybook.Uuid
import Daybook.Zone.Basic
import Daybook.Zone.Catalogue
import Daybook.Zone.Era
import Daybook.Zone.Tables.Africa
import Daybook.Zone.Tables.Asia
import Daybook.Zone.Tables.Europe
import Daybook.Zone.Tables.FixedOffsets
import Daybook.Zone.Tables.Islands
import Daybook.Zone.Tables.NorthAmerica
import Daybook.Zone.Tables.Pacific
import Daybook.Zone.Tables.Shared
import Daybook.Zone.Tables.SouthAmerica
import Daybook.Zone.Tables.Southern
