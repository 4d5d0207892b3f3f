import CaSettings.AltNames
import CaSettings.Cli.Arguments
import CaSettings.Cli.Help
import CaSettings.Cli.Markup
import CaSettings.Cli.Misuse
import CaSettings.Cli.Program
import CaSettings.Cli.Request
import CaSettings.Cli.Shown
import CaSettings.Cli.Table
import CaSettings.Conf.Line
import CaSettings.Conf.Sections
import CaSettings.ConfigView
import CaSettings.Defaults
import CaSettings.Duration
import CaSettings.Failure
import CaSettings.FileTree
import CaSettings.Host
import CaSettings.Interpolation
import CaSettings.Json
import CaSettings.Log
import CaSettings.Main
import CaSettings.NameMap
import CaSettings.Path
import CaSettings.Resolver
import CaSettings.ServerList
import CaSettings.Session
import CaSettings.Template
import CaSettings.Text.Blank
import CaSettings.Text.CaseTable
import CaSettings.Text.Emoji.Flags
import CaSettings.Text.Emoji.Named
import CaSettings.Text.Emoji.Plain
import CaSettings.Text.Emoji.Toned
import CaSettings.Text.Fields
import CaSettings.Text.Lines
import CaSettings.Text.LowerCase
import CaSettings.Text.Quoted
import CaSettings.Text.Ranges
import CaSettings.Text.ShortCode
import CaSettings.Text.Similar
import CaSettings.Text.Unprintable
import CaSettings.Text.Utf8
import CaSettings.Text.Width
import CaSettings.Text.WidthTable
import CaSettings.Text.Word
import CaSettings.Text.Wrap
import CaSettings.Value
import CaSettings.Proofs.Interpolation.Waiting
import CaSettings.Proofs.Cli.Commands
import CaSettings.Proofs.Cli.Stopping
import CaSettings.Proofs.Interpolation.PassBudget
import CaSettings.Proofs.Report
import CaSettings.Proofs.Sessions
import CaSettings.Proofs.Reach
import CaSettings.Proofs.TableOrder
import CaSettings.Proofs.Conf.Grammar
import CaSettings.Proofs.Text.Lines
import CaSettings.Proofs.Conf.Declarations
import CaSettings.Proofs.Conf.Precedence
import CaSettings.Proofs.Conf.Layout
import CaSettings.Proofs.Conf.ReadBack
import CaSettings.Proofs.Transforms
import CaSettings.Proofs.Interpolation.Layered
import CaSettings.Proofs.DefaultTable
import CaSettings.Proofs.Interpolation.Tokens
import CaSettings.Proofs.Conf.Rereading
import CaSettings.Proofs.Conf.Joining
import CaSettings.Proofs.Conf.Comments
import CaSettings.Proofs.Conf.SectionNames
import CaSettings.Proofs.Conf.Notes
import CaSettings.Proofs.Text.Fields
import CaSettings.Proofs.ServerList
import CaSettings.Proofs.ServerNotation
import CaSettings.Proofs.ServerRereading
import CaSettings.Proofs.Interpolation.Literal
import CaSettings.Proofs.Supplying
import CaSettings.Proofs.TimeToLive
import CaSettings.Proofs.AltNames
import CaSettings.Proofs.Shape
import CaSettings.Proofs.FileTree
import CaSettings.Proofs.AbsentFile
import CaSettings.Proofs.Path
import CaSettings.Proofs.Cli.Asking
import CaSettings.Proofs.Cli.Screen
import CaSettings.Proofs.Cli.ShowAndGet
import CaSettings.Proofs.Cli.ConfigFlag
