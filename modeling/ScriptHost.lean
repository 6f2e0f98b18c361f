import ScriptHost.App.Application
import ScriptHost.App.Arguments
import ScriptHost.App.LogFilter
import ScriptHost.Capability.Basic
import ScriptHost.Capability.Captcha
import ScriptHost.Capability.Catalog
import ScriptHost.Capability.Crypto
import ScriptHost.Capability.Database
import ScriptHost.Capability.Debug
import ScriptHost.Capability.Environment
import ScriptHost.Capability.Event
import ScriptHost.Capability.FileInfo
import ScriptHost.Capability.FormCoding
import ScriptHost.Capability.Http
import ScriptHost.Capability.Image
import ScriptHost.Capability.JsonCoding
import ScriptHost.Capability.MailSending
import ScriptHost.Capability.Payment
import ScriptHost.Capability.Player
import ScriptHost.Capability.Sample
import ScriptHost.Capability.SessionData
import ScriptHost.Capability.Settings
import ScriptHost.Capability.SharedCache
import ScriptHost.Capability.Storage
import ScriptHost.Capability.Time
import ScriptHost.Capability.Validator
import ScriptHost.Capability.Widget
import ScriptHost.Capability.WorldMap
import ScriptHost.Capability.Xml
import ScriptHost.Capability.XmlValue
import ScriptHost.Config.Decode
import ScriptHost.Config.Settings
import ScriptHost.Config.View
import ScriptHost.Data.KeyMap
import ScriptHost.Digest.Otp
import ScriptHost.Digest.Sha1
import ScriptHost.Engine.Basic
import ScriptHost.Engine.Custody
import ScriptHost.Engine.Events
import ScriptHost.Engine.Instance
import ScriptHost.Engine.Pool
import ScriptHost.Host.Cache
import ScriptHost.Host.Canned
import ScriptHost.Host.Context
import ScriptHost.Host.Entropy
import ScriptHost.Host.Fault
import ScriptHost.Host.Files
import ScriptHost.Host.GameData
import ScriptHost.Host.Scheduler
import ScriptHost.Host.Service
import ScriptHost.Json.Basic
import ScriptHost.Json.Decode
import ScriptHost.Json.Number
import ScriptHost.Json.Text
import ScriptHost.Json.Token
import ScriptHost.Main
import ScriptHost.Number.Binary64
import ScriptHost.Number.Decimal
import ScriptHost.Number.Numeral
import ScriptHost.Number.Shortest
import ScriptHost.Number.Word
import ScriptHost.Pattern.Basic
import ScriptHost.Pattern.Text
import ScriptHost.Proofs.Pool.Crowd
import ScriptHost.Proofs.Pool.Exclusive
import ScriptHost.Script.Action
import ScriptHost.Script.Argument
import ScriptHost.Script.Binder
import ScriptHost.Script.Call
import ScriptHost.Script.Error
import ScriptHost.Script.Heap
import ScriptHost.Script.Interpreter
import ScriptHost.Script.Registry
import ScriptHost.Script.Source
import ScriptHost.Script.Step
import ScriptHost.Script.Table
import ScriptHost.Script.Unfolding
import ScriptHost.Script.Value
import ScriptHost.Text.Alphabetic
import ScriptHost.Text.Base32
import ScriptHost.Text.Blank
import ScriptHost.Text.BytePlace
import ScriptHost.Text.Character
import ScriptHost.Text.CharTable
import ScriptHost.Text.CombiningClass
import ScriptHost.Text.ComposedForm
import ScriptHost.Text.Direction
import ScriptHost.Text.Hex
import ScriptHost.Text.Joining
import ScriptHost.Text.LowerCase
import ScriptHost.Text.Mark
import ScriptHost.Text.Numeric
import ScriptHost.Text.Quoted
import ScriptHost.Text.Utf8
import ScriptHost.Time.Civil
import ScriptHost.Time.Clock
import ScriptHost.Time.Duration
import ScriptHost.Time.Instant
import ScriptHost.Toml.Date
import ScriptHost.Toml.Scalar
import ScriptHost.Toml.Text
import ScriptHost.Toml.Tree
import ScriptHost.Toml.Value
import ScriptHost.Url.Form
import ScriptHost.Url.HostName
import ScriptHost.Url.IpAddress
import ScriptHost.Url.NameMapping
import ScriptHost.Url.Provisioning
import ScriptHost.Url.Punycode
import ScriptHost.Url.WebAddress
import ScriptHost.Web.Exchange
import ScriptHost.Web.FormRule
import ScriptHost.Web.Request
import ScriptHost.Web.Response
import ScriptHost.Web.Session
import ScriptHost.Xml.Escape
import ScriptHost.Xml.Event
import ScriptHost.Xml.Node
import ScriptHost.Xml.Tree
import ScriptHost.Proofs.Script.Table
import ScriptHost.Proofs.Json.Normal
import ScriptHost.Proofs.Script.DataTrip
import ScriptHost.Proofs.Script.Interpreter
import ScriptHost.Proofs.Script.Binder
import ScriptHost.Proofs.Script.Bindable
import ScriptHost.Proofs.Script.Request
import ScriptHost.Proofs.Capability.Request
import ScriptHost.Proofs.Script.Outside
import ScriptHost.Proofs.Engine.Custody
import ScriptHost.Proofs.Engine.History
import ScriptHost.Proofs.App.Request
import ScriptHost.Proofs.App.Response
import ScriptHost.Proofs.Script.Careful
import ScriptHost.Proofs.Capability.Careful
import ScriptHost.Proofs.Script.Work
import ScriptHost.Proofs.Script.Calls
import ScriptHost.Proofs.Engine.Reachable
import ScriptHost.Proofs.Engine.Configured
import ScriptHost.Proofs.App.Namespace
import ScriptHost.Proofs.App.Failure
import ScriptHost.Proofs.Web.Part
import ScriptHost.Proofs.Capability.Response
import ScriptHost.Proofs.Pool.Deal
import ScriptHost.Proofs.Pool.Conservation
import ScriptHost.Proofs.Pool.Limits
import ScriptHost.Proofs.Pool.Stack
import ScriptHost.Proofs.Json.Number
import ScriptHost.Proofs.Json.Token
import ScriptHost.Proofs.Json.Text
import ScriptHost.Proofs.Script.Unfolding
import ScriptHost.Proofs.Capability.JsonCoding
import ScriptHost.Proofs.Web.Session
import ScriptHost.Proofs.Web.Response
import ScriptHost.Proofs.App.Session
import ScriptHost.Proofs.Text.Trim
import ScriptHost.Proofs.Xml.Escape
import ScriptHost.Proofs.Xml.Tag
import ScriptHost.Proofs.Xml.Document
import ScriptHost.Proofs.Capability.XmlValue
import ScriptHost.Proofs.Capability.Xml
import ScriptHost.Proofs.Script.Reordering
import ScriptHost.Proofs.Config.View
import ScriptHost.Proofs.Script.Alike
import ScriptHost.Proofs.Capability.Settings
import ScriptHost.Proofs.Data.Since
import ScriptHost.Proofs.Host.Cache
import ScriptHost.Proofs.App.Turnover
import ScriptHost.Proofs.Host.Bustle
import ScriptHost.Proofs.Number.Decimal
import ScriptHost.Proofs.Text.Base32
import ScriptHost.Proofs.Digest.Otp
import ScriptHost.Proofs.Url.Percent
import ScriptHost.Proofs.Url.Form
import ScriptHost.Proofs.Capability.FormCoding
import ScriptHost.Proofs.Script.Circular
import ScriptHost.Proofs.Capability.Debug
import ScriptHost.Proofs.Xml.Markup
import ScriptHost.Proofs.Xml.Stream
import ScriptHost.Proofs.Xml.Segment
import ScriptHost.Proofs.Xml.Rereading
import ScriptHost.Proofs.Time.Duration
import ScriptHost.Proofs.Time.Civil
import ScriptHost.Proofs.Time.Instant
import ScriptHost.Proofs.Capability.Time
import ScriptHost.Proofs.Text.LowerCase
import ScriptHost.Proofs.Web.FormRule
import ScriptHost.Proofs.Capability.Validator
import ScriptHost.Proofs.Capability.SharedCache
import ScriptHost.Proofs.Url.Provisioning
import ScriptHost.Proofs.Capability.Crypto
import ScriptHost.Proofs.Capability.Player
import ScriptHost.Proofs.Capability.Image
import ScriptHost.Proofs.App.Image
