/-!
# Names of characters

The names of characters, as of Unicode 14, with the further names of some of them and
without those that follow from a rule. The names are in order. Each line starts with a
name; before each further one lower-case letters, of which `a` counts nothing, `b` one and
`z` twenty-five, tell how many characters it has in common with the name before it.
-/

namespace Depot.Text

/-- The names of characters, in lines. -/
def characterNameLines : List String := [
  "ABACUSbC CURRENTcCORDIONeUNT OFcKdNOWLEDGEcTIVATE ARABIC FORM SHAPINGjSYMMETRIC SWAPPING",
  "ACUTE ACCENThNGLEbDDRESSED TO THE SUBJECTcHESIVE BANDAGEcI SHAKTIcLAM ALIF LENGTHENER",
  "ADLAM CAPITAL LETTER ALIFvBAwHEvCHIvDAALIwHAvEvFAvGAwBEvHAvIvJIIMvKAFwHAwPOvLAAMvMIIMvNHAwUNwYA",
  "ADLAM CAPITAL LETTER OvPEvQAAFvRAvSHAwINNYIIYHEvTUvUvVAvWAWvYAwHEvZALhONSONANT MODIFIER",
  "ADLAM DIGIT EIGHTmFIVEnOURmNINEmONEmSEVENnIXmTHREEnWOmZEROgGEMINATE CONSONANT MODIFIERnION MARK",
  "ADLAM HAMZAgINITIAL EXCLAMATION MARKoQUESTION MARKgNASALIZATION MARKhUKTAgSMALL LETTER ALIFtBA",
  "ADLAM SMALL LETTER BHEtCHItDAALIuHAtEtFAtGAuBEtHAtItJIIMtKAFuHAuPOtLAAMtMIIMtNHAuUNuYAtOtPE",
  "ADLAM SMALL LETTER QAAFtRAtSHAuINNYIIYHEtTUtUtVAtWAWtYAuHEtZALgVOWEL LENGTHENERcMETOS",
  "ADMISSION TICKETScULTbEGEAN CHECK MARKhDRY MEASURE FIRST SUBUNIThLIQUID MEASURE FIRST SUBUNIT",
  "AEGEAN MEASURE SECOND SUBUNITpTHIRD SUBUNIThNUMBER EIGHTt HUNDREDuTHOUSANDtYu THOUSANDoFIFTY",
  "AEGEAN NUMBER FIFTY THOUSANDqVEs HUNDREDtTHOUSANDpORTYt THOUSANDqURs HUNDREDtTHOUSANDoNINE",
  "AEGEAN NUMBER NINE HUNDREDtTHOUSANDsTYu THOUSANDoONEr HUNDREDsTHOUSANDoSEVENt HUNDREDuTHOUSAND",
  "AEGEAN NUMBER SEVENTYv THOUSANDpIXr HUNDREDsTHOUSANDrTYt THOUSANDoTENr THOUSANDpHIRTYu THOUSAND",
  "AEGEAN NUMBER THREEt HUNDREDuTHOUSANDpWENTYu THOUSANDqOr HUNDREDsTHOUSANDhWEIGHT BASE UNIT",
  "AEGEAN WEIGHT FIRST SUBUNITpOURTH SUBUNIToSECOND SUBUNIToTHIRD SUBUNITiORD SEPARATOR DOTwLINE",
  "AERIAL TRAMWAYbFGHANI SIGNbHOM CONSONANT SIGN MEDIAL LAzdIGATING RAzcRAfDIGIT EIGHTlFIVEmOUR",
  "AHOM DIGIT NINElONElSEVENmIXlTHREEmWOlZEROfLETTER AnLTERNATE BAwGAwTAmBAnHAmCAnHAmDAnDAoHAnHA",
  "AHOM LETTER GAnHAmHAmJAnHAmKAnHAmLAnLAmMAmNAnGAnNAnYAmPAnHAmRAmSAmTAnHAnTAoHAfNUMBER TENnWENTY",
  "AHOM SIGN KILLERkRULAIkSECTIONlMALL SECTIONgYMBOL VIfVOWEL SIGN ArArIrMrWqEqIrIqOqUrUbIRPLANE",
  "AIRPLANE ARRIVINGjDEPARTUREbKTIESELSKABbLARM CLOCKcCHEMICAL SYMBOL FOR AIRxLEMBICyKALIzd-2yUM",
  "ALCHEMICAL SYMBOL FOR AMALGAMxNTIMONY ORExQUA REGIAzh-2zcVITAEzh-2zbFORTISxRSENICxSHES",
  "ALCHEMICAL SYMBOL FOR AURIPIGMENTwBATH OF MARYzfVAPOURSxISMUTH ORExLACK SULFURxORAXzc-2zd3xRICK",
  "ALCHEMICAL SYMBOL FOR CADUCEUSyLXyPUT MORTUUMxINNABARxOPPER ANTIMONIATEzeORExROCUS OF COPPER",
  "ALCHEMICAL SYMBOL FOR CROCUS OF COPPER-2zhIRONyUCIBLEzf-2zg3zg4zg5wDAY-NIGHTxISSOLVEzf-2zTILL",
  "ALCHEMICAL SYMBOL FOR EARTHwFIREwGOLDxUMwHALF DRAMzcOUNCExORSE DUNGyURwIRON OREzf-2",
  "ALCHEMICAL SYMBOL FOR IRON-COPPER OREwLEAD ORExODESTONEwMARCASITExERCURY SUBLIMATEzo-2zp3xONTH",
  "ALCHEMICAL SYMBOL FOR NIGHTyTREwOILwPHILOSOPHERS SULFURxOT ASHESyWDERzdED BRICKxRECIPITATE",
  "ALCHEMICAL SYMBOL FOR PURIFYyTREFACTIONwQUICK LIMEzNTESSENCEwREALGARze-2yGULUSze OF ANTIMONY",
  "ALCHEMICAL SYMBOL FOR REGULUS OF ANTIMONY-2ziIRONze-2zf3zf4yTORTxOCK SALTzg-2wSAL-AMMONIACzT",
  "ALCHEMICAL SYMBOL FOR SALT OF ANTIMONYzfCOPPER ANTIMONIATExCEPTER OF JOVExILVERxOAPxPIRIT",
  "ALCHEMICAL SYMBOL FOR STARRED TRIDENTyRATUM SUPER STRATUMzs-2xUBLIMATE OF ANTIMONYzkCOPPER",
  "ALCHEMICAL SYMBOL FOR SUBLIMATE OF SALT OF ANTIMONYzsCOPPERzfIONyLFURwTARTARzd-2xIN OREzCTURE",
  "ALCHEMICAL SYMBOL FOR TRIDENTxUTTYwURINEwVERDIGRISxINEGARze OF ANTIMONYze-2zf3yTRIOLze-2wWATER",
  "ALCHEMICAL SYMBOL FOR WAXcEF SYMBOLdMBICdRTcIEN MONSTERcL AROUND-PROFILEeEQUAL TOcM",
  "ALMOST EQUAL OR EQUAL TOnTOp WITH CIRCUMFLEX ACCENTcTERNATE ONE-WAY LEFT WAY TRAFFIC",
  "ALTERNATIVE KEY SYMBOLbMALGAMATION OR COPRODUCTcBULANCEcERICAN FOOTBALLcPERSANDdHORA",
  "ANATOLIAN HIEROGLYPH A001y2y3y4y5y6y7y8y9x10zAy1y2y3y4y5y6y7y8y9x20y1y2y3y4y5y6zAy7y8y9x30y1y2",
  "ANATOLIAN HIEROGLYPH A033y4y5y6y7y8y9zAx40y1zAy2y3y4y5zAy6zAzBy7y8y9x50y1y2y3y4y5y6y7y8y9x60y1",
  "ANATOLIAN HIEROGLYPH A062y3y4y5y6zAzBzCy7y8y9x70y1y2y3y4y5y6y7y8y9x80y1y2y3y4y5y6y7y8y9x90y1y2",
  "ANATOLIAN HIEROGLYPH A093y4y5y6y7zAy8zAy9w100zAy1zAy2zAy3y4zAzBzCy5zAzBy6y7zAzBzCy8y9x10zAzBy1",
  "ANATOLIAN HIEROGLYPH A112y3y4y5zAy6y7y8y9x20y1y2y3y4y5zAy6y7y8y9x30y1y2y3y4y5zAy6y7y8y9x40y1y2",
  "ANATOLIAN HIEROGLYPH A143y4y5y6y7y8y9x50y1y2y3y4y5y6y7y8y9x60y1y2y3y4y5y6y7y8y9x70y1y2y3y4y5y6",
  "ANATOLIAN HIEROGLYPH A177y8y9x80y1y2y3y4y5y6y7y8y9x90y1y2y3y4y5y6y7y8y9w200y1y2zAzBy3y4y5y6y7zA",
  "ANATOLIAN HIEROGLYPH A208y9zAx10y1y2y3y4y5zAy6zAy7y8y9x20y1y2y3y4y5y6y7zAy8y9x30y1y2y3y4y5y6y7",
  "ANATOLIAN HIEROGLYPH A238y9x40y1y2y3y4y5y6y7y8y9x50y1y2y3y4y5y6y7y8y9x60y1y2y3y4y5y6y7zAy8y9x70",
  "ANATOLIAN HIEROGLYPH A271y2y3y4y5y6y7y8y9x80y1y2y3y4y5y6y7y8y9zAx90y1y2y3y4zAy5y6y7y8y9zAw300y1",
  "ANATOLIAN HIEROGLYPH A302y3y4y5y6y7y8y9zAx10y1y2y3y4y5y6y7y8y9x20y1y2y3y4y5y6y7y8y9zAx30y1y2AzB",
  "ANATOLIAN HIEROGLYPH A332Cy3y4y5y6zAzBzCy7y8y9x40y1y2y3y4y5y6y7y8y9x50y1y2y3y4y5y6y7y8y9zAx60y1",
  "ANATOLIAN HIEROGLYPH A362y3y4zAy5y6y7y8zAy9x70y1zAy2y3y4y5y6y7y8y9x80y1zAy2y3 RA OR RIzAy4y5y6",
  "ANATOLIAN HIEROGLYPH A386Ay7y8y9x90y1y2y3 EIGHTy4y5y6y7y8y9w400y1y2y3y4y5y6y7y8y9",
  "ANATOLIAN HIEROGLYPH A410 BEGIN LOGOGRAM MARKzA END LOGOGRAM MARKy1y2y3y4y5y6y7y8y9x20y1y2y3y4",
  "ANATOLIAN HIEROGLYPH A425y6y7y8y9x30y1y2y3y4y5y6y7y8y9x40y1y2y3y4y5y6y7y8y9x50zAy1y2y3y4y5y6y7",
  "ANATOLIAN HIEROGLYPH A457Ay8y9x60y1y2y3y4y5y6y7y8y9x70y1y2y3y4y5y6y7y8y9x80y1y2y3y4y5y6y7y8y9",
  "ANATOLIAN HIEROGLYPH A490y1y2y3y4y5y6y7w501y2y3y4y5y6y7y8y9x10y1y2y3y4y5y6y7y8y9x20y1y2y3y4y5y6",
  "ANATOLIAN HIEROGLYPH A527y8y9x30fMICAL HEARTcCHORcD WITH DOTcGER SYMBOLdLEf WITH S INSIDE",
  "ANGLE WITH UNDERBARdRY FACEdSTROM SIGNdUISHED FACEcKHcTdENNA WITH BARS",
  "ANTICLOCKWISE CLOSED CIRCLE ARROWpONTOUR INTEGRALoDOWNWARDS AND UPWARDS OPEN CIRCLE ARROWS",
  "ANTICLOCKWISE GAPPED CIRCLE ARROWoINTEGRATIONoOPEN CIRCLE ARROWoTOP SEMICIRCLE ARROW",
  "ANTICLOCKWISE TRIANGLE-HEADED BOTTOM U-SHAPED ARROWzfLEFT U-SHAPED ARROWzfOPEN CIRCLE ARROW",
  "ANTICLOCKWISE TRIANGLE-HEADED RIGHT U-SHAPED ARROWzfTOP U-SHAPED ARROWbPC",
  "APL FUNCTIONAL SYMBOL ALPHAzc UNDERBARwBACKSLASH BARwCIRCLE BACKSLASHzeDIAERESISzeJOTzeSTAR",
  "APL FUNCTIONAL SYMBOL CIRCLE STILEzeUNDERBARxOMMA BARwDEL DIAERESISzbSTILEzbTILDEzTA STILE",
  "APL FUNCTIONAL SYMBOL DELTA UNDERBARxIAMOND UNDERBARxOWN CARET TILDEzcSHOE STILEzcTACK JOT",
  "APL FUNCTIONAL SYMBOL DOWN TACK UNDERBARzbWARDS VANEwEPSILON UNDERBARwGREATER-THAN DIAERESIS",
  "APL FUNCTIONAL SYMBOL I-BEAMxOTAzb UNDERBARwJOT DIAERESISzbUNDERBARwLEFT SHOE STILEzbWARDS VANE",
  "APL FUNCTIONAL SYMBOL OMEGAzc UNDERBARwQUADzb BACKSLASHzcCIRCLEzdOLONzcDELzfTAzdIAMONDzeVIDE",
  "APL FUNCTIONAL SYMBOL QUAD DOWN CARETzgWARDS ARROWzcEQUALzcGREATER-THANzcJOTzcLEFTWARDS ARROW",
  "APL FUNCTIONAL SYMBOL QUAD LESS-THANzcNOT EQUALzcQUESTIONzcRIGHTWARDS ARROWzcSLASHzcUP CARET",
  "APL FUNCTIONAL SYMBOL QUAD UPWARDS ARROWyOTE QUADzdUNDERBARwRHOxIGHTWARDS VANE",
  "APL FUNCTIONAL SYMBOL SEMICOLON UNDERBARxLASH BARxQUISH QUADxTAR DIAERESISyILE TILDE",
  "APL FUNCTIONAL SYMBOL TILDE DIAERESISwUP CARET TILDEzSHOE JOTzTACK DIAERESISzfJOTzfOVERBAR",
  "APL FUNCTIONAL SYMBOL UPWARDS VANEwZILDEcOLLONdSTROPHEcPLICATION PROGRAM COMMAND",
  "APPROACHES THE LIMITfXIMATELY BUT NOT ACTUALLY EQUAL TOoEQUAL OR EQUAL TOuTOw OR THE IMAGE OF",
  "AQUARIUSbRABIC BASELINE ROUND DOThCOMMAiURLY DAMMAsTANnFATHAsTANnKASRAsTANhDAMMAm ISOLATED FORM",
  "ARABIC DAMMA MEDIAL FORMnWITH DOTmTANp ISOLATED FORMjTE SEPARATORiECIMAL SEPARATOR",
  "ARABIC DISPUTED END OF AYAHiOUBLE RIGHT ARROWHEAD ABOVEzk WITH DOTnD MADDA",
  "ARABIC EMPTY CENTRE HIGH STOPuLOW STOPiND OF AYAHoTEXT MARKhFATHAm ISOLATED FORMnMEDIAL FORM",
  "ARABIC FATHA WITH DOT ABOVEsRINGsTWO DOTSmTANp ISOLATED FORMiIVE POINTED STARiOOTNOTE MARKER",
  "ARABIC FULL STOPhHALF MADDA OVER MADDAjMZA ABOVEnBELOWhINVERTED DAMMAhKASRAm ISOLATED FORM",
  "ARABIC KASRA MEDIAL FORMnWITH DOT BELOWmTANp ISOLATED FORMhLARGE CIRCLE BELOWnROUND DOT ABOVE",
  "ARABIC LARGE ROUND DOT BELOWxINSIDE CIRCLE BELOWiEFT ARROWHEAD ABOVEwBELOWjTTER AEpFRICAN FEH",
  "ARABIC LETTER AFRICAN NOONwQAFz WITH THREE DOTS ABOVEpINr FINAL FORMsINITIAL FORMtSOLATED FORM",
  "ARABIC LETTER AIN MEDIAL FORMsWITH THREE DOTS ABOVEzjBELOWzjPOINTING DOWNWARDS ABOVE",
  "ARABIC LETTER AIN WITH TWO DOTS ABOVEzhVERTICALLY ABOVEpLEFs FINAL FORMtISOLATED FORMtMAKSURA",
  "ARABIC LETTER ALEF MAKSURA FINAL FORMzcISOLATED FORMtWASLAy FINAL FORMzISOLATED FORM",
  "ARABIC LETTER ALEF WITH ATTACHED BOTTOM RIGHT KASRAzzb AND DOT ABOVEzzgLEFT RINGziFATHAziKASRA",
  "ARABIC LETTER ALEF WITH ATTACHED LEFT HAMZAznROUND DOTziRIGHT HAMZAzoROUND DOTzjOUND DOT ABOVE",
  "ARABIC LETTER ALEF WITH ATTACHED ROUND DOT BELOWziTOP RIGHT FATHAzx AND DOT ABOVEzzdLEFT RING",
  "ARABIC LETTER ALEF WITH DOT ABOVEyEXTENDED ARABIC-INDIC DIGIT THREE ABOVEzzdWO ABOVE",
  "ARABIC LETTER ALEF WITH HAMZA ABOVEzk FINAL FORMzlISOLATED FORMzfBELOWzk FINAL FORM",
  "ARABIC LETTER ALEF WITH HAMZA BELOW ISOLATED FORMyLEFT MIDDLE STROKEyMADDA ABOVEzk FINAL FORM",
  "ARABIC LETTER ALEF WITH MADDA ABOVE ISOLATED FORMyRIGHT MIDDLE STROKEzs AND DOT ABOVE",
  "ARABIC LETTER ALEF WITH RIGHT MIDDLE STROKE AND LEFT RINGyWAVY HAMZA ABOVEzkBELOWoBEEH",
  "ARABIC LETTER BEEH FINAL FORMtINITIAL FORMuSOLATED FORMtMEDIAL FORMqHr FINAL FORMsINITIAL FORM",
  "ARABIC LETTER BEH ISOLATED FORMsMEDIAL FORMsWITH DOT BELOW AND THREE DOTS ABOVExHAMZA ABOVE",
  "ARABIC LETTER BEH WITH INVERTED SMALL V BELOWxSMALL MEEM ABOVEzeVzf BELOW",
  "ARABIC LETTER BEH WITH THREE DOTS HORIZONTALLY BELOWzjPOINTING UPWARDS BELOW",
  "ARABIC LETTER BEH WITH THREE DOTS POINTING UPWARDS BELOW AND TWO DOTS ABOVE",
  "ARABIC LETTER BEH WITH TWO DOTS BELOW AND DOT ABOVErEHt FINAL FORMuINITIAL FORMvSOLATED FORM",
  "ARABIC LETTER BEHEH MEDIAL FORMoDADr FINAL FORMsINITIAL FORMtSOLATED FORMsMEDIAL FORM",
  "ARABIC LETTER DAD WITH DOT BELOWqHALt FINAL FORMuISOLATED FORMqLr FINAL FORMsISOLATED FORM",
  "ARABIC LETTER DAL WITH DOT BELOWzh AND SMALL TAHxFOUR DOTS ABOVExINVERTED SMALL V BELOWzhVxRING",
  "ARABIC LETTER DAL WITH THREE DOTS ABOVE DOWNWARDSzjBELOWyWO DOTS VERTICALLY BELOW AND SMALL TAH",
  "ARABIC LETTER DDAHALu FINAL FORMvISOLATED FORMrLs FINAL FORMtISOLATED FORMpOTLESS BEHwFEHwQAF",
  "ARABIC LETTER DULr FINAL FORMsISOLATED FORMpYEHs FINAL FORMtINITIAL FORMuSOLATED FORM",
  "ARABIC LETTER DYEH MEDIAL FORMoEp FINAL FORMqINITIAL FORMrSOLATED FORMqMEDIAL FORMoFARSI YEH",
  "ARABIC LETTER FARSI YEH FINAL FORMyINITIAL FORMzSOLATED FORMyMEDIAL FORM",
  "ARABIC LETTER FARSI YEH WITH EXTENDED ARABIC-INDIC DIGIT FOUR BELOWzzhTHREE ABOVEzziWO ABOVE",
  "ARABIC LETTER FARSI YEH WITH INVERTED VzeTHREE DOTS ABOVEzfWO DOTS ABOVEpEHr FINAL FORM",
  "ARABIC LETTER FEH INITIAL FORMtSOLATED FORMsMEDIAL FORMsWITH DOT BELOWzh AND THREE DOTS ABOVE",
  "ARABIC LETTER FEH WITH DOT MOVED BELOWxTHREE DOTS BELOWzjPOINTING UPWARDS BELOWyWO DOTS BELOW",
  "ARABIC LETTER GAFr FINAL FORMsINITIAL FORMtSOLATED FORMsMEDIAL FORMsWITH INVERTED STROKExRING",
  "ARABIC LETTER GAF WITH THREE DOTS ABOVEyWO DOTS BELOWpHAINt FINAL FORMuINITIAL FORM",
  "ARABIC LETTER GHAIN ISOLATED FORMuMEDIAL FORMuWITH DOT BELOWzTHREE DOTS ABOVEpRAFpUEH",
  "ARABIC LETTER GUEH FINAL FORMtINITIAL FORMuSOLATED FORMtMEDIAL FORMoHAHr FINAL FORM",
  "ARABIC LETTER HAH INITIAL FORMtSOLATED FORMsMEDIAL FORM",
  "ARABIC LETTER HAH WITH EXTENDED ARABIC-INDIC DIGIT FOUR BELOWxHAMZA ABOVE",
  "ARABIC LETTER HAH WITH INVERTED SMALL V BELOWxSMALL ARABIC LETTER TAH ABOVEzxND TWO DOTSzwBELOW",
  "ARABIC LETTER HAH WITH THREE DOTS ABOVEzjPOINTING UPWARDS BELOWyWO DOTS ABOVEzhVERTICAL ABOVE",
  "ARABIC LETTER HAMZAt ISOLATED FORMpEHr DOACHASHMEEze FINAL FORMzfINITIAL FORMzgSOLATED FORM",
  "ARABIC LETTER HEH DOACHASHMEE MEDIAL FORMsFINAL FORMsGOALw FINAL FORMxINITIAL FORMySOLATED FORM",
  "ARABIC LETTER HEH GOAL MEDIAL FORMxWITH HAMZA ABOVEsINITIAL FORMtSOLATED FORMsMEDIAL FORM",
  "ARABIC LETTER HEH WITH INVERTED VxYEH ABOVEzh FINAL FORMziISOLATED FORMpIGH HAMZAy ALEFzWAWzYEH",
  "ARABIC LETTER JEEMs FINAL FORMtINITIAL FORMuSOLATED FORMtMEDIAL FORMtWITH THREE DOTS ABOVE",
  "ARABIC LETTER JEEM WITH THREE DOTS BELOWzWO DOTS ABOVEqHr FINAL FORMsISOLATED FORMoKAF",
  "ARABIC LETTER KAF FINAL FORMsINITIAL FORMtSOLATED FORMsMEDIAL FORMsWITH DOT ABOVEzcBELOWxRING",
  "ARABIC LETTER KAF WITH THREE DOTS BELOWyWO DOTS ABOVEqSHMIRI YEHpEHEHt FINAL FORMuINITIAL FORM",
  "ARABIC LETTER KEHEH ISOLATED FORMuMEDIAL FORMuWITH DOT ABOVEzSMALL VzTHREE DOTS ABOVEzlBELOW",
  "ARABIC LETTER KEHEH WITH THREE DOTS POINTING UPWARDS BELOWzbWO DOTS ABOVEzjVERTICALLY BELOWpHAH",
  "ARABIC LETTER KHAH FINAL FORMtINITIAL FORMuSOLATED FORMtMEDIAL FORMpIRGHIZ OEy FINAL FORM",
  "ARABIC LETTER KIRGHIZ OE ISOLATED FORMwYUy FINAL FORMzISOLATED FORMoLAMr FINAL FORM",
  "ARABIC LETTER LAM INITIAL FORMtSOLATED FORMsMEDIAL FORMsWITH BARxDOT ABOVEzUBLE BAR",
  "ARABIC LETTER LAM WITH SMALL ARABIC LETTER TAH ABOVEzeVxTHREE DOTS ABOVEzjBELOWpOW ALEFoMARK",
  "ARABIC LETTER MEEMs FINAL FORMtINITIAL FORMuSOLATED FORMtMEDIAL FORMtWITH DOT ABOVEzdBELOW",
  "ARABIC LETTER MEEM WITH THREE DOTS ABOVEoNGq FINAL FORMrINITIAL FORMsSOLATED FORMrMEDIAL FORM",
  "ARABIC LETTER NGOEHt FINAL FORMuINITIAL FORMvSOLATED FORMuMEDIAL FORMpOONs FINAL FORMtGHUNNA",
  "ARABIC LETTER NOON GHUNNA FINAL FORMzbISOLATED FORMtINITIAL FORMuSOLATED FORMtMEDIAL FORM",
  "ARABIC LETTER NOON WITH DOT BELOWyINVERTED SMALL VyRINGySMALL TAHzfVyTHREE DOTS ABOVE",
  "ARABIC LETTER NOON WITH TWO DOTS BELOWpYEHs FINAL FORMtINITIAL FORMuSOLATED FORMtMEDIAL FORMoOE",
  "ARABIC LETTER OE FINAL FORMrISOLATED FORMoPEHr FINAL FORMsINITIAL FORMtSOLATED FORMsMEDIAL FORM",
  "ARABIC LETTER PEH WITH SMALL MEEM ABOVEzeVrEHt FINAL FORMuINITIAL FORMvSOLATED FORMuMEDIAL FORM",
  "ARABIC LETTER QAFr FINAL FORMsINITIAL FORMtSOLATED FORMsMEDIAL FORMsWITH DOT ABOVEzcBELOW",
  "ARABIC LETTER QAF WITH DOT BELOW AND NO DOTS ABOVExTHREE DOTS ABOVEoREHr FINAL FORM",
  "ARABIC LETTER REH ISOLATED FORMsWITH DOT BELOWzh AND DOT ABOVExFOUR DOTS ABOVExHAMZA ABOVE",
  "ARABIC LETTER REH WITH INVERTED VxLOOPxRINGxSMALL ARABIC LETTER TAH AND TWO DOTSzeNOON ABOVEzeV",
  "ARABIC LETTER REH WITH SMALL V BELOWyTROKExTWO DOTS ABOVEzhVERTICALLY ABOVEpNOONt FINAL FORM",
  "ARABIC LETTER RNOON INITIAL FORMvSOLATED FORMuMEDIAL FORMpOHINGYA YEHpREHs FINAL FORM",
  "ARABIC LETTER RREH ISOLATED FORMoSADr FINAL FORMsINITIAL FORMtSOLATED FORMsMEDIAL FORM",
  "ARABIC LETTER SAD WITH THREE DOTS ABOVEzjBELOWyWO DOTS BELOWpEENs FINAL FORMtINITIAL FORM",
  "ARABIC LETTER SEEN ISOLATED FORMtMEDIAL FORMtWITH DOT BELOW AND DOT ABOVE",
  "ARABIC LETTER SEEN WITH EXTENDED ARABIC-INDIC DIGIT FOUR ABOVEyFOUR DOTS ABOVEyINVERTED V",
  "ARABIC LETTER SEEN WITH SMALL ARABIC LETTER TAH AND TWO DOTSyTHREE DOTS BELOW",
  "ARABIC LETTER SEEN WITH THREE DOTS BELOW AND THREE DOTS ABOVEzWO DOTS VERTICALLY ABOVEpHEEN",
  "ARABIC LETTER SHEEN FINAL FORMuINITIAL FORMvSOLATED FORMuMEDIAL FORMuWITH DOT BELOWpTRAIGHT WAW",
  "ARABIC LETTER SUPERSCRIPT ALEFpWASH KAFoTAHr FINAL FORMsINITIAL FORMtSOLATED FORMsMEDIAL FORM",
  "ARABIC LETTER TAH WITH DOT BELOWxTHREE DOTS ABOVEzjBELOWyWO DOTS ABOVEpCHEHt FINAL FORM",
  "ARABIC LETTER TCHEH INITIAL FORMvSOLATED FORMuMEDIAL FORMuWITH DOT ABOVEzSMALL VtEHv FINAL FORM",
  "ARABIC LETTER TCHEHEH INITIAL FORMxSOLATED FORMwMEDIAL FORMpEHr FINAL FORMsINITIAL FORM",
  "ARABIC LETTER TEH ISOLATED FORMsMARBUTAz FINAL FORMzbGOALzbISOLATED FORMtEDIAL FORMsWITH RING",
  "ARABIC LETTER TEH WITH SMALL TEH ABOVEzeVxTHREE DOTS ABOVE DOWNWARDSrEHt FINAL FORM",
  "ARABIC LETTER TEHEH INITIAL FORMvSOLATED FORMuMEDIAL FORMpHALs FINAL FORMtISOLATED FORMqEH",
  "ARABIC LETTER THEH FINAL FORMtINITIAL FORMuSOLATED FORMtMEDIAL FORMqIN YEHpTEHs FINAL FORM",
  "ARABIC LETTER TTEH INITIAL FORMuSOLATED FORMtMEDIAL FORMtWITH SMALL VsEHu FINAL FORM",
  "ARABIC LETTER TTEHEH INITIAL FORMwSOLATED FORMvMEDIAL FORMoUp FINAL FORMqISOLATED FORM",
  "ARABIC LETTER U WITH HAMZA ABOVEzh ISOLATED FORMpIGHUR KAZAKH KIRGHIZ ALEF MAKSURA INITIAL FORM",
  "ARABIC LETTER UIGHUR KAZAKH KIRGHIZ ALEF MAKSURA MEDIAL FORMoVEq FINAL FORMrISOLATED FORMqH",
  "ARABIC LETTER VEH FINAL FORMsINITIAL FORMtSOLATED FORMsMEDIAL FORMoWAWr FINAL FORM",
  "ARABIC LETTER WAW ISOLATED FORMsWITH DOT ABOVEzcWITHINxEXTENDED ARABIC-INDIC DIGIT THREE ABOVE",
  "ARABIC LETTER WAW WITH EXTENDED ARABIC-INDIC DIGIT TWO ABOVExHAMZA ABOVEzj FINAL FORM",
  "ARABIC LETTER WAW WITH HAMZA ABOVE ISOLATED FORMxRINGxTWO DOTS ABOVEoYEHr BARREEy FINAL FORM",
  "ARABIC LETTER YEH BARREE ISOLATED FORMzWITH EXTENDED ARABIC-INDIC DIGIT THREE ABOVEzzjWO ABOVE",
  "ARABIC LETTER YEH BARREE WITH HAMZA ABOVEzq FINAL FORMzrISOLATED FORMsFINAL FORMsINITIAL FORM",
  "ARABIC LETTER YEH ISOLATED FORMsMEDIAL FORMsWITH HAMZA ABOVEzj FINAL FORMzkINITIAL FORM",
  "ARABIC LETTER YEH WITH HAMZA ABOVE ISOLATED FORMzkMEDIAL FORMxSMALL VxTAILyHREE DOTS BELOW",
  "ARABIC LETTER YEH WITH TWO DOTS BELOW AND DOT ABOVEzrHAMZA ABOVEzrSMALL NOON ABOVEpU",
  "ARABIC LETTER YU FINAL FORMrISOLATED FORMoZAHr FINAL FORMsINITIAL FORMtSOLATED FORMsMEDIAL FORM",
  "ARABIC LETTER ZAINs FINAL FORMtISOLATED FORMtWITH INVERTED V ABOVE",
  "ARABIC LIGATURE AIN WITH ALEF MAKSURA FINAL FORMznISOLATED FORMzJEEM INITIAL FORMzgSOLATED FORM",
  "ARABIC LIGATURE AIN WITH JEEM WITH MEEM FINAL FORMzpINITIAL FORMzMEEM INITIAL FORM",
  "ARABIC LIGATURE AIN WITH MEEM ISOLATED FORMzfWITH ALEF MAKSURA FINAL FORMzkMEEM FINAL FORM",
  "ARABIC LIGATURE AIN WITH MEEM WITH MEEM INITIAL FORMzkYEH FINAL FORMzYEH FINAL FORM",
  "ARABIC LIGATURE AIN WITH YEH ISOLATED FORMrKBAR ISOLATED FORMrLAYHAA AS-SALAAMvE ISOLATED FORM",
  "ARABIC LIGATURE ALAYHI AS-SALAAMzgTU WAS-SALAAMwM AS-SALAAMxAA AS-SALAAM",
  "ARABIC LIGATURE ALEF MAKSURA WITH SUPERSCRIPT ALEF FINAL FORMzzbISOLATED FORM",
  "ARABIC LIGATURE ALEF WITH FATHATAN FINAL FORMzkISOLATED FORMsLAH ISOLATED FORMrZZA WA JALL",
  "ARABIC LIGATURE BEH WITH ALEF MAKSURA FINAL FORMznISOLATED FORMzHAH INITIAL FORMzfSOLATED FORM",
  "ARABIC LIGATURE BEH WITH HAH WITH YEH FINAL FORMzbEH INITIAL FORMzeMEDIAL FORM",
  "ARABIC LIGATURE BEH WITH JEEM INITIAL FORMzgSOLATED FORMzKHAH INITIAL FORMzgSOLATED FORM",
  "ARABIC LIGATURE BEH WITH KHAH WITH YEH FINAL FORMzMEEM FINAL FORMzfINITIAL FORMzgSOLATED FORM",
  "ARABIC LIGATURE BEH WITH MEEM MEDIAL FORMzNOON FINAL FORMzREH FINAL FORMzYEH FINAL FORM",
  "ARABIC LIGATURE BEH WITH YEH ISOLATED FORMzZAIN FINAL FORMrISMILLAH AR-RAHMAN AR-RAHEEM",
  "ARABIC LIGATURE DAD WITH ALEF MAKSURA FINAL FORMznISOLATED FORMzHAH INITIAL FORMzfSOLATED FORM",
  "ARABIC LIGATURE DAD WITH HAH WITH ALEF MAKSURA FINAL FORMzjYEH FINAL FORMzJEEM INITIAL FORM",
  "ARABIC LIGATURE DAD WITH JEEM ISOLATED FORMzKHAH INITIAL FORMzgSOLATED FORM",
  "ARABIC LIGATURE DAD WITH KHAH WITH MEEM FINAL FORMzpINITIAL FORMzMEEM INITIAL FORM",
  "ARABIC LIGATURE DAD WITH MEEM ISOLATED FORMzREH FINAL FORMzeISOLATED FORMzYEH FINAL FORM",
  "ARABIC LIGATURE DAD WITH YEH ISOLATED FORMqFEH WITH ALEF MAKSURA FINAL FORMznISOLATED FORM",
  "ARABIC LIGATURE FEH WITH HAH INITIAL FORMzfSOLATED FORMzJEEM INITIAL FORMzgSOLATED FORM",
  "ARABIC LIGATURE FEH WITH KHAH INITIAL FORMzgSOLATED FORMzfWITH MEEM FINAL FORMzpINITIAL FORM",
  "ARABIC LIGATURE FEH WITH MEEM INITIAL FORMzgSOLATED FORMzfWITH YEH FINAL FORMzYEH FINAL FORM",
  "ARABIC LIGATURE FEH WITH YEH ISOLATED FORMqGHAIN WITH ALEF MAKSURA FINAL FORMzpISOLATED FORM",
  "ARABIC LIGATURE GHAIN WITH JEEM INITIAL FORMziSOLATED FORMzcMEEM INITIAL FORMziSOLATED FORM",
  "ARABIC LIGATURE GHAIN WITH MEEM WITH ALEF MAKSURA FINAL FORMzmMEEM FINAL FORMzmYEH FINAL FORM",
  "ARABIC LIGATURE GHAIN WITH YEH FINAL FORMzgISOLATED FORMqHAH WITH ALEF MAKSURA FINAL FORM",
  "ARABIC LIGATURE HAH WITH ALEF MAKSURA ISOLATED FORMzJEEM INITIAL FORMzgSOLATED FORM",
  "ARABIC LIGATURE HAH WITH JEEM WITH YEH FINAL FORMzMEEM INITIAL FORMzgSOLATED FORM",
  "ARABIC LIGATURE HAH WITH MEEM WITH ALEF MAKSURA FINAL FORMzkYEH FINAL FORMzYEH FINAL FORM",
  "ARABIC LIGATURE HAH WITH YEH ISOLATED FORMrEH WITH ALEF MAKSURA ISOLATED FORMzJEEM INITIAL FORM",
  "ARABIC LIGATURE HEH WITH JEEM ISOLATED FORMzMEEM INITIAL FORMzgSOLATED FORM",
  "ARABIC LIGATURE HEH WITH MEEM WITH JEEM INITIAL FORMzkMEEM INITIAL FORM",
  "ARABIC LIGATURE HEH WITH SUPERSCRIPT ALEF INITIAL FORMzYEH ISOLATED FORMqJALLAJALALOUHOU",
  "ARABIC LIGATURE JEEM WITH ALEF MAKSURA FINAL FORMzoISOLATED FORMzbHAH INITIAL FORM",
  "ARABIC LIGATURE JEEM WITH HAH ISOLATED FORMzfWITH ALEF MAKSURA FINAL FORMzkYEH FINAL FORM",
  "ARABIC LIGATURE JEEM WITH MEEM INITIAL FORMzhSOLATED FORMzgWITH ALEF MAKSURA FINAL FORM",
  "ARABIC LIGATURE JEEM WITH MEEM WITH HAH FINAL FORMzpINITIAL FORMzlYEH FINAL FORM",
  "ARABIC LIGATURE JEEM WITH YEH FINAL FORMzfISOLATED FORMqKAF WITH ALEF FINAL FORMzfISOLATED FORM",
  "ARABIC LIGATURE KAF WITH ALEF MAKSURA FINAL FORMznISOLATED FORMzHAH INITIAL FORMzfSOLATED FORM",
  "ARABIC LIGATURE KAF WITH JEEM INITIAL FORMzgSOLATED FORMzKHAH INITIAL FORMzgSOLATED FORM",
  "ARABIC LIGATURE KAF WITH LAM FINAL FORMzeINITIAL FORMzfSOLATED FORMzeMEDIAL FORM",
  "ARABIC LIGATURE KAF WITH MEEM FINAL FORMzfINITIAL FORMzgSOLATED FORMzfMEDIAL FORM",
  "ARABIC LIGATURE KAF WITH MEEM WITH MEEM FINAL FORMzpINITIAL FORMzkYEH FINAL FORMzYEH FINAL FORM",
  "ARABIC LIGATURE KAF WITH YEH ISOLATED FORMrHAH WITH ALEF MAKSURA FINAL FORMzoISOLATED FORM",
  "ARABIC LIGATURE KHAH WITH HAH ISOLATED FORMzbJEEM INITIAL FORMzhSOLATED FORMzbMEEM INITIAL FORM",
  "ARABIC LIGATURE KHAH WITH MEEM ISOLATED FORMzbYEH FINAL FORMzfISOLATED FORM",
  "ARABIC LIGATURE LAM WITH ALEF FINAL FORMzfISOLATED FORMzfMAKSURA FINAL FORMznISOLATED FORM",
  "ARABIC LIGATURE LAM WITH ALEF WITH HAMZA ABOVE FINAL FORMzwISOLATED FORMzqBELOW FINAL FORM",
  "ARABIC LIGATURE LAM WITH ALEF WITH HAMZA BELOW ISOLATED FORMzkMADDA ABOVE FINAL FORM",
  "ARABIC LIGATURE LAM WITH ALEF WITH MADDA ABOVE ISOLATED FORMzHAH INITIAL FORMzfSOLATED FORM",
  "ARABIC LIGATURE LAM WITH HAH WITH ALEF MAKSURA FINAL FORMzjMEEM FINAL FORMzoINITIAL FORM",
  "ARABIC LIGATURE LAM WITH HAH WITH YEH FINAL FORMzbEH INITIAL FORMzJEEM INITIAL FORM",
  "ARABIC LIGATURE LAM WITH JEEM ISOLATED FORMzfWITH JEEM FINAL FORMzpINITIAL FORM",
  "ARABIC LIGATURE LAM WITH JEEM WITH MEEM FINAL FORMzpINITIAL FORMzkYEH FINAL FORM",
  "ARABIC LIGATURE LAM WITH KHAH INITIAL FORMzgSOLATED FORMzfWITH MEEM FINAL FORMzpINITIAL FORM",
  "ARABIC LIGATURE LAM WITH MEEM FINAL FORMzfINITIAL FORMzgSOLATED FORMzfMEDIAL FORM",
  "ARABIC LIGATURE LAM WITH MEEM WITH HAH FINAL FORMzoINITIAL FORMzkYEH FINAL FORMzYEH FINAL FORM",
  "ARABIC LIGATURE LAM WITH YEH ISOLATED FORMqMEEM WITH ALEF FINAL FORMzgMAKSURA ISOLATED FORM",
  "ARABIC LIGATURE MEEM WITH HAH INITIAL FORMzgSOLATED FORMzfWITH JEEM INITIAL FORM",
  "ARABIC LIGATURE MEEM WITH HAH WITH MEEM INITIAL FORMzkYEH FINAL FORMzbJEEM INITIAL FORM",
  "ARABIC LIGATURE MEEM WITH JEEM ISOLATED FORMzgWITH HAH INITIAL FORMzlKHAH INITIAL FORM",
  "ARABIC LIGATURE MEEM WITH JEEM WITH MEEM INITIAL FORMzlYEH FINAL FORMzbKHAH INITIAL FORM",
  "ARABIC LIGATURE MEEM WITH KHAH ISOLATED FORMzgWITH JEEM INITIAL FORMzlMEEM INITIAL FORM",
  "ARABIC LIGATURE MEEM WITH KHAH WITH YEH FINAL FORMzbMEEM FINAL FORMzgINITIAL FORMzhSOLATED FORM",
  "ARABIC LIGATURE MEEM WITH MEEM WITH YEH FINAL FORMzbYEH ISOLATED FORMrOHAMMAD ISOLATED FORM",
  "ARABIC LIGATURE NOON WITH ALEF MAKSURA FINAL FORMzoISOLATED FORMzbHAH INITIAL FORM",
  "ARABIC LIGATURE NOON WITH HAH ISOLATED FORMzfWITH ALEF MAKSURA FINAL FORMzkMEEM INITIAL FORM",
  "ARABIC LIGATURE NOON WITH HAH WITH YEH FINAL FORMzcEH INITIAL FORMzfMEDIAL FORM",
  "ARABIC LIGATURE NOON WITH JEEM INITIAL FORMzhSOLATED FORMzgWITH ALEF MAKSURA FINAL FORM",
  "ARABIC LIGATURE NOON WITH JEEM WITH HAH FINAL FORMzpINITIAL FORMzlMEEM FINAL FORMzqINITIAL FORM",
  "ARABIC LIGATURE NOON WITH JEEM WITH YEH FINAL FORMzbKHAH INITIAL FORMzhSOLATED FORM",
  "ARABIC LIGATURE NOON WITH MEEM FINAL FORMzgINITIAL FORMzhSOLATED FORMzgMEDIAL FORM",
  "ARABIC LIGATURE NOON WITH MEEM WITH ALEF MAKSURA FINAL FORMzlYEH FINAL FORMzbNOON FINAL FORM",
  "ARABIC LIGATURE NOON WITH REH FINAL FORMzbYEH FINAL FORMzfISOLATED FORMzbZAIN FINAL FORM",
  "ARABIC LIGATURE QAF WITH ALEF MAKSURA FINAL FORMznISOLATED FORMzHAH INITIAL FORMzfSOLATED FORM",
  "ARABIC LIGATURE QAF WITH MEEM INITIAL FORMzgSOLATED FORMzfWITH HAH FINAL FORMzoINITIAL FORM",
  "ARABIC LIGATURE QAF WITH MEEM WITH MEEM FINAL FORMzkYEH FINAL FORMzYEH FINAL FORM",
  "ARABIC LIGATURE QAF WITH YEH ISOLATED FORMsLA USED AS KORANIC STOP SIGN ISOLATED FORM",
  "ARABIC LIGATURE QUDDISA SIRRAHqRADI ALLAAHU ANHzhAAzhUMzjAAziNNAsHIMAHU ALLAAHyM ALLAAH",
  "ARABIC LIGATURE RASOUL ISOLATED FORMrEH WITH SUPERSCRIPT ALEF ISOLATED FORM",
  "ARABIC LIGATURE SAD WITH ALEF MAKSURA FINAL FORMznISOLATED FORMzHAH INITIAL FORMzfSOLATED FORM",
  "ARABIC LIGATURE SAD WITH HAH WITH HAH FINAL FORMznINITIAL FORMzjYEH FINAL FORM",
  "ARABIC LIGATURE SAD WITH KHAH INITIAL FORMzMEEM INITIAL FORMzgSOLATED FORM",
  "ARABIC LIGATURE SAD WITH MEEM WITH MEEM FINAL FORMzpINITIAL FORMzREH FINAL FORMzeISOLATED FORM",
  "ARABIC LIGATURE SAD WITH YEH FINAL FORMzeISOLATED FORMsLAAMUHU ALAYNAAuM ISOLATED FORM",
  "ARABIC LIGATURE SALLA ISOLATED FORMwUSED AS KORANIC STOP SIGN ISOLATED FORM",
  "ARABIC LIGATURE SALLALLAAHU ALAYHI WA-AALIHyHOU ALAYHE WASALLAMzU ALAYHI WAAALIHEE WA-SALLAM",
  "ARABIC LIGATURE SEEN WITH ALEF MAKSURA FINAL FORMzoISOLATED FORMzbHAH INITIAL FORM",
  "ARABIC LIGATURE SEEN WITH HAH ISOLATED FORMzfMEDIAL FORMzfWITH JEEM INITIAL FORM",
  "ARABIC LIGATURE SEEN WITH HEH INITIAL FORMzfMEDIAL FORMzbJEEM INITIAL FORMzhSOLATED FORM",
  "ARABIC LIGATURE SEEN WITH JEEM MEDIAL FORMzgWITH ALEF MAKSURA FINAL FORMzlHAH INITIAL FORM",
  "ARABIC LIGATURE SEEN WITH KHAH INITIAL FORMzhSOLATED FORMzgMEDIAL FORM",
  "ARABIC LIGATURE SEEN WITH KHAH WITH ALEF MAKSURA FINAL FORMzlYEH FINAL FORMzbMEEM INITIAL FORM",
  "ARABIC LIGATURE SEEN WITH MEEM ISOLATED FORMzgMEDIAL FORMzgWITH HAH FINAL FORMzpINITIAL FORM",
  "ARABIC LIGATURE SEEN WITH MEEM WITH JEEM INITIAL FORMzlMEEM FINAL FORMzqINITIAL FORM",
  "ARABIC LIGATURE SEEN WITH REH FINAL FORMzfISOLATED FORMzbYEH FINAL FORMzfISOLATED FORM",
  "ARABIC LIGATURE SHADDA WITH DAMMA ISOLATED FORMzjMEDIAL FORMziTAN ISOLATED FORM",
  "ARABIC LIGATURE SHADDA WITH FATHA ISOLATED FORMzjMEDIAL FORMzdKASRA ISOLATED FORMzjMEDIAL FORM",
  "ARABIC LIGATURE SHADDA WITH KASRATAN ISOLATED FORMzdSUPERSCRIPT ALEF ISOLATED FORM",
  "ARABIC LIGATURE SHEEN WITH ALEF MAKSURA FINAL FORMzpISOLATED FORMzcHAH FINAL FORMzgINITIAL FORM",
  "ARABIC LIGATURE SHEEN WITH HAH ISOLATED FORMzgMEDIAL FORMzgWITH MEEM FINAL FORMzqINITIAL FORM",
  "ARABIC LIGATURE SHEEN WITH HAH WITH YEH FINAL FORMzdEH INITIAL FORMzgMEDIAL FORM",
  "ARABIC LIGATURE SHEEN WITH JEEM FINAL FORMzhINITIAL FORMziSOLATED FORMzhMEDIAL FORM",
  "ARABIC LIGATURE SHEEN WITH JEEM WITH YEH FINAL FORMzcKHAH FINAL FORMzhINITIAL FORM",
  "ARABIC LIGATURE SHEEN WITH KHAH ISOLATED FORMzhMEDIAL FORMzcMEEM FINAL FORMzhINITIAL FORM",
  "ARABIC LIGATURE SHEEN WITH MEEM ISOLATED FORMzhMEDIAL FORMzhWITH KHAH FINAL FORMzrINITIAL FORM",
  "ARABIC LIGATURE SHEEN WITH MEEM WITH MEEM FINAL FORMzrINITIAL FORMzcREH FINAL FORM",
  "ARABIC LIGATURE SHEEN WITH REH ISOLATED FORMzcYEH FINAL FORMzgISOLATED FORM",
  "ARABIC LIGATURE SUBHAANAHU WA TAAALAAqTABAARAKA WA-TAAALAAsH WITH ALEF MAKSURA FINAL FORM",
  "ARABIC LIGATURE TAH WITH ALEF MAKSURA ISOLATED FORMzHAH INITIAL FORMzfSOLATED FORM",
  "ARABIC LIGATURE TAH WITH MEEM INITIAL FORMzgSOLATED FORMzfMEDIAL FORMzfWITH HAH FINAL FORM",
  "ARABIC LIGATURE TAH WITH MEEM WITH HAH INITIAL FORMzkMEEM INITIAL FORMzkYEH FINAL FORM",
  "ARABIC LIGATURE TAH WITH YEH FINAL FORMzeISOLATED FORMrEH WITH ALEF MAKSURA FINAL FORM",
  "ARABIC LIGATURE TEH WITH ALEF MAKSURA ISOLATED FORMzHAH INITIAL FORMzfSOLATED FORM",
  "ARABIC LIGATURE TEH WITH HAH WITH JEEM FINAL FORMzoINITIAL FORMzjMEEM INITIAL FORM",
  "ARABIC LIGATURE TEH WITH HEH INITIAL FORMzeMEDIAL FORMzJEEM INITIAL FORMzgSOLATED FORM",
  "ARABIC LIGATURE TEH WITH JEEM WITH ALEF MAKSURA FINAL FORMzkMEEM INITIAL FORMzkYEH FINAL FORM",
  "ARABIC LIGATURE TEH WITH KHAH INITIAL FORMzgSOLATED FORMzfWITH ALEF MAKSURA FINAL FORM",
  "ARABIC LIGATURE TEH WITH KHAH WITH MEEM INITIAL FORMzkYEH FINAL FORMzMEEM FINAL FORM",
  "ARABIC LIGATURE TEH WITH MEEM INITIAL FORMzgSOLATED FORMzfMEDIAL FORM",
  "ARABIC LIGATURE TEH WITH MEEM WITH ALEF MAKSURA FINAL FORMzkHAH INITIAL FORMzkJEEM INITIAL FORM",
  "ARABIC LIGATURE TEH WITH MEEM WITH KHAH INITIAL FORMzkYEH FINAL FORMzNOON FINAL FORM",
  "ARABIC LIGATURE TEH WITH REH FINAL FORMzYEH FINAL FORMzeISOLATED FORMzZAIN FINAL FORM",
  "ARABIC LIGATURE THAL WITH SUPERSCRIPT ALEF ISOLATED FORMsEH WITH ALEF MAKSURA FINAL FORM",
  "ARABIC LIGATURE THEH WITH ALEF MAKSURA ISOLATED FORMzbHEH MEDIAL FORMzbJEEM ISOLATED FORM",
  "ARABIC LIGATURE THEH WITH MEEM FINAL FORMzgINITIAL FORMzhSOLATED FORMzgMEDIAL FORM",
  "ARABIC LIGATURE THEH WITH NOON FINAL FORMzbREH FINAL FORMzbYEH FINAL FORMzfISOLATED FORM",
  "ARABIC LIGATURE THEH WITH ZAIN FINAL FORM",
  "ARABIC LIGATURE UIGHUR KIRGHIZ YEH WITH HAMZA ABOVE WITH ALEF MAKSURA FINAL FORMzzuINITIAL FORM",
  "ARABIC LIGATURE UIGHUR KIRGHIZ YEH WITH HAMZA ABOVE WITH ALEF MAKSURA ISOLATED FORM",
  "ARABIC LIGATURE WASALLAM ISOLATED FORMqYEH WITH ALEF MAKSURA FINAL FORMznISOLATED FORM",
  "ARABIC LIGATURE YEH WITH HAH INITIAL FORMzfSOLATED FORMzeWITH YEH FINAL FORM",
  "ARABIC LIGATURE YEH WITH HAMZA ABOVE WITH AE FINAL FORMzuISOLATED FORMzsLEF FINAL FORM",
  "ARABIC LIGATURE YEH WITH HAMZA ABOVE WITH ALEF ISOLATED FORMzwMAKSURA FINAL FORM",
  "ARABIC LIGATURE YEH WITH HAMZA ABOVE WITH ALEF MAKSURA ISOLATED FORMzrE FINAL FORM",
  "ARABIC LIGATURE YEH WITH HAMZA ABOVE WITH E INITIAL FORMzuSOLATED FORMzrHAH INITIAL FORM",
  "ARABIC LIGATURE YEH WITH HAMZA ABOVE WITH HAH ISOLATED FORMzsEH INITIAL FORMzvMEDIAL FORM",
  "ARABIC LIGATURE YEH WITH HAMZA ABOVE WITH JEEM INITIAL FORMzxSOLATED FORMzrKHAH INITIAL FORM",
  "ARABIC LIGATURE YEH WITH HAMZA ABOVE WITH MEEM FINAL FORMzwINITIAL FORMzxSOLATED FORM",
  "ARABIC LIGATURE YEH WITH HAMZA ABOVE WITH MEEM MEDIAL FORMzrNOON FINAL FORMzrOE FINAL FORM",
  "ARABIC LIGATURE YEH WITH HAMZA ABOVE WITH OE ISOLATED FORMzrREH FINAL FORMzrU FINAL FORM",
  "ARABIC LIGATURE YEH WITH HAMZA ABOVE WITH U ISOLATED FORMzrWAW FINAL FORMzvISOLATED FORM",
  "ARABIC LIGATURE YEH WITH HAMZA ABOVE WITH YEH FINAL FORMzvISOLATED FORMzsU FINAL FORM",
  "ARABIC LIGATURE YEH WITH HAMZA ABOVE WITH YU ISOLATED FORMzrZAIN FINAL FORMzbEH INITIAL FORM",
  "ARABIC LIGATURE YEH WITH HEH MEDIAL FORMzJEEM INITIAL FORMzgSOLATED FORMzfWITH YEH FINAL FORM",
  "ARABIC LIGATURE YEH WITH KHAH INITIAL FORMzgSOLATED FORMzMEEM FINAL FORMzfINITIAL FORM",
  "ARABIC LIGATURE YEH WITH MEEM ISOLATED FORMzfMEDIAL FORMzfWITH MEEM FINAL FORMzpINITIAL FORM",
  "ARABIC LIGATURE YEH WITH MEEM WITH YEH FINAL FORMzNOON FINAL FORMzREH FINAL FORMzYEH FINAL FORM",
  "ARABIC LIGATURE YEH WITH YEH ISOLATED FORMzZAIN FINAL FORMqZAH WITH MEEM INITIAL FORM",
  "ARABIC LIGATURE ZAH WITH MEEM ISOLATED FORMzfMEDIAL FORMhMADDA WAAJIBmH ABOVEjRK NOON GHUNNA",
  "ARABIC MARK SIDEWAYS NOON GHUNNAjTHEMATICAL AINvLEFuBEHuDADwLvOTLESS BEHzdFEHzdNOONzdQAF",
  "ARABIC MATHEMATICAL DOUBLE-STRUCK AINzjBEHzjDADzlLzjFEHzjGHAINzjHAHzjJEEMzjKHAHzjLAMzjMEEM",
  "ARABIC MATHEMATICAL DOUBLE-STRUCK NOONzjQAFzjREHzjSADzkEENzkHEENzjTAHzkEHzkHALzlEHzjWAWzjYEH",
  "ARABIC MATHEMATICAL DOUBLE-STRUCK ZAHzlINuFEHuGHAINuHAHuINITIAL AINzdBEHzdDADzdFEHzdGHAINzdHAH",
  "ARABIC MATHEMATICAL INITIAL HEHzdJEEMzdKAFzeHAHzdLAMzdMEEMzdNOONzdQAFzdSADzeEENzeHEENzdTEHzeHEH",
  "ARABIC MATHEMATICAL INITIAL YEHuJEEMuKAFvHAHuLAMvOOPED AINzdLEFzcBEHzcDADzeLzcFEHzcGHAINzcHAH",
  "ARABIC MATHEMATICAL LOOPED HEHzcJEEMzcKHAHzcLAMzcMEEMzcNOONzcQAFzcREHzcSADzdEENzdHEENzcTAHzdEH",
  "ARABIC MATHEMATICAL LOOPED THALzeEHzcWAWzcYEHzcZAHzeINuMEEMuNOONuOPERATOR HAH WITH DAL",
  "ARABIC MATHEMATICAL OPERATOR MEEM WITH HAH WITH TATWEELuQAFuREHuSADvEENvHEENvTRETCHED AINzfBEH",
  "ARABIC MATHEMATICAL STRETCHED DADzgOTLESS BEHznFEHzfFEHzfGHAINzfHAHzgEHzfJEEMzfKAFzgHAHzfMEEM",
  "ARABIC MATHEMATICAL STRETCHED NOONzfQAFzfSADzgEENzgHEENzfTAHzgEHzgHEHzfYEHzfZAHuTAHwILED AIN",
  "ARABIC MATHEMATICAL TAILED DADzdOTLESS NOONzkQAFzcGHAINzcHAHzcJEEMzcKHAHzcLAMzcNOONzcQAFzcSAD",
  "ARABIC MATHEMATICAL TAILED SEENzdHEENzcYEHvEHvHALwEHuWAWuYEHuZAHwINhNUMBER MARK ABOVEoSIGN",
  "ARABIC OPEN DAMMATANmFATHATANmKASRATANhPERCENT SIGNiIASTRE MARK ABOVEiLACE OF SAJDAH",
  "ARABIC POETIC VERSE SIGNjUND MARK ABOVEhQUESTION MARKhRAISED ROUND DOTjYiEVERSED DAMMA",
  "ARABIC RIGHT ARROWHEAD ABOVEzd WITH DOTxBELOWiOUNDED HIGH STOP WITH FILLED CENTREhSEMICOLON",
  "ARABIC SHADDAn ISOLATED FORMoMEDIAL FORMiIGN ALAYHE ASSALLAMmMISRAmRADI ALLAHOU ANHU",
  "ARABIC SIGN RAHMATULLAH ALAYHEmSAFHAoLLALLAHOU ALAYHE WASSALLAMoMVAToNAHnINDHI AMPERSAND",
  "ARABIC SIGN SINDHI POSTPOSITION MENmTAKHALLUSiMALL DAMMAnFARSI YEHpTHAnHIGH AIN",
  "ARABIC SMALL HIGH DOTLESS HEAD OF KHAHsFARSI YEHtOOTNOTE MARKERsJEEMsLAM ALEF",
  "ARABIC SMALL HIGH LIGATURE ALEF WITH LAM WITH YEHzcQAF WITH LAM WITH ALEF MAKSURA",
  "ARABIC SMALL HIGH LIGATURE SAD WITH LAM WITH ALEF MAKSURAsMADDAtEEM INITIAL FORMySOLATED FORM",
  "ARABIC SMALL HIGH NOONw WITH KASRAsQAFsROUNDED ZEROsSADtEENtIGN SAFHAsTAHtHREE DOTS",
  "ARABIC SMALL HIGH UPRIGHT RECTANGULAR ZEROsWAWtORD AL-JUZyN-NISFyR-RUByS-SAJDAyTH-THALATHAxQIF",
  "ARABIC SMALL HIGH WORD SAHzKTAxWAQFAsYEHv BARREE WITH TWO DOTS BELOWsZAHuINnKASRAnLOW MEEM",
  "ARABIC SMALL LOW NOON WITH KASRArSEENrWAWsORD IMAALAxSHMAAMwTASHEELnWAWnYEHiTART OF RUB EL HIZB",
  "ARABIC SUBSCRIPT ALEFjKUNm BELOWnISOLATED FORMnMEDIAL FORMjPERSCRIPT ALEF MOKHASSAS",
  "ARABIC SYMBOL DOT ABOVEsBELOWqUBLE VERTICAL BAR BELOWoFOUR DOTS ABOVEyBELOWoRING",
  "ARABIC SYMBOL SMALL TAH ABOVEyBELOWoTHREE DOTS ABOVEzBELOWzPOINTING DOWNWARDS ABOVEztBELOW",
  "ARABIC SYMBOL TWO DOTS ABOVExBELOWxVERTICALLY ABOVEzjBELOWoWASLA ABOVEhTAIL FRAGMENTjTWEEL",
  "ARABIC TATWEEL WITH FATHATAN ABOVEuOVERSTRUCK HAMZAzgWAWuTWO DOTS BELOWiHOUSANDS SEPARATOR",
  "ARABIC TONE LOOP ABOVErBELOWmONE DOT ABOVEuBELOWmTWO DOTS ABOVEvBELOW",
  "ARABIC TRIPLE DOT PUNCTUATION MARKiURNED DAMMA BELOWhVERTICAL TAILiOWEL SIGN DOT BELOW",
  "ARABIC VOWEL SIGN INVERTED SMALL V ABOVEsSMALL V ABOVEhWAVY HAMZA BELOWhZWARAKAY",
  "ARABIC-INDIC CUBE ROOTnDIGIT EIGHTtFIVEuOURtNINEtONEtSEVENuIXtTHREEuWOtZEROnFOURTH ROOT",
  "ARABIC-INDIC PER MILLE SIGNrTEN THOUSAND SIGNcCcIEScMENIAN ABBREVIATION MARKkPOSTROPHE",
  "ARMENIAN CAPITAL LETTER AYByBENyCAzHAzbEHzOyDAyECHzHzTyFEHyGHADzIMyHOyINIyJAzHEHyKEHzbNyLIWN",
  "ARMENIAN CAPITAL LETTER MENyNOWyOHyPEHzIWRyRAzEHySEHzHAyTIWNzOyVEWzOyXEHyYIzbWNyZAzHEkOMMA",
  "ARMENIAN DRAM SIGNjEMPHASIS MARKkXCLAMATION MARKjFULL STOPjHYPHEN",
  "ARMENIAN MODIFIER LETTER LEFT HALF RINGjQUESTION MARKjSMALL LETTER AYBwBENwCAxHAyEHxOwDAwECHxH",
  "ARMENIAN SMALL LETTER ETwFEHwGHADxIMwHOwINIwJAxHEHwKEHyNwLIWNwMENwNOWwOHwPEHxIWRwRAxEHwSEHxHA",
  "ARMENIAN SMALL LETTER TIWNxOxURNED AYBwVEWxOwXEHwYIy WITH STROKEyWNwZAxHEqIGATURE ECH YIWN",
  "ARMENIAN SMALL LIGATURE MEN ECHzdINIzdNOWzdXEHyVEW NOW",
  "ARROW POINTING DOWNWARDS THEN CURVING LEFTWARDSznRIGHTWARDSpRIGHTWARDS THEN CURVING DOWNWARDS",
  "ARROW POINTING RIGHTWARDS THEN CURVING SOUTH WESTzoUPWARDSpUPWARDS THEN NORTH WEST",
  "ARROWHEAD-SHAPED POINTERcTICULATED LORRYeST PALETTEbSCENDING NODEdIA SYMBOLcSERTIONcTERISK",
  "ASTERISK OPERATORhMdONISHED FACEdRAEAeONOMICAL SYMBOL FOR URANUScYMPTOTICALLY EQUAL TO",
  "ATHLETIC SHOEcOM SYMBOLbUBERGINEcSTRAL SIGNcTO RICKSHAWeMATED TELLER MACHINEfOBILE",
  "AVESTAN ABBREVIATION MARKiLETTER AqArNrOqErEqNqOpBEqHEpCEpDEqHEpEqEpFEpGEqGEqHEpHEqMEpIqIpJEpKE",
  "AVESTAN LETTER LEpMEpNEqGErVErYEqNEqYEpOqOpPEpREpSEqHErYEqSHEpTEqHEqTEpUqUpVEpXEqVEqYEpYEqYEpZE",
  "AVESTAN LETTER ZHEcOCADObXEaBABYe ANGELfBOTTLEfCHICKfSYMBOLcCK OF ENVELOPE",
  "BACK WITH LEFTWARDS ARROW ABOVEe-TILTED SHADOWED WHITE RIGHTWARDS ARROW",
  "BACKSLANTED SOUTH ARROW WITH HOOKED TAILzgRIZONTAL TAILfPACEdONdTRIAN CAMELcDGER",
  "BADMINTON RACQUET AND SHUTTLECOCKcGELdGAGE CLAIMdUETTE BREADcLINESE ADEG ADEGjCARIK PAMUNGKAH",
  "BALINESE CARIK PARERENpSIKIjDIGIT EIGHTpFIVEqOURpNINEpONEpSEVENqIXpTHREEqWOpZEROjLETTER AIKARA",
  "BALINESE LETTER AKARAv TEDUNGrRCHAIC JNYArSYURA SASAKqBAs KEMBANGqCAs LACAqDAs MADU",
  "BALINESE LETTER DA MURDA ALPAPRANAzMAHAPRANAqEF SASAKrKARAqGAs GORAqHAqIKARAv TEDUNGqJAs JERA",
  "BALINESE LETTER KAs MAHAPRANAsF SASAKrHOT SASAKqLAs LENGAy TEDUNGqMAqNAs RAMBATrGArYAqOKARA",
  "BALINESE LETTER OKARA TEDUNGqPAs KAPALqRAs REPAx TEDUNGqSAs SAGAvPAqTAs LATIKtMURDA MAHAPRANA",
  "BALINESE LETTER TA TAWArZIR SASAKqUKARAv TEDUNGqVE SASAKqWAqYAqZAL SASAK",
  "BALINESE MUSICAL SYMBOL COMBINING BENDEzjENDEPzjGONGzjJEGOGANzjKEMPLIzp WITH JEGOGANznUL",
  "BALINESE MUSICAL SYMBOL COMBINING KEMPUL WITH JEGOGANzjTEGEHyDAENGzbINGzbNGzd GEDEzeSURANGzENG",
  "BALINESE MUSICAL SYMBOL DEUNGzINGzONGzUNGyLEFT-HAND CLOSED PLAKzsUKzjOPEN PANGzpINGzpUNG",
  "BALINESE MUSICAL SYMBOL RIGHT-HAND CLOSED TAKzsUKzkOPEN DAGzqUGjPAMADAp LANTANGmENENGlNTI",
  "BALINESE PANTI LANTANGjSIGN BISAHoCECEKoREREKANoSURANGoULU CANDRAsRICEMjVOWEL SIGN LA LENGA",
  "BALINESE VOWEL SIGN LA LENGA TEDUNGuPEPETz TEDUNGuRA REPAzc TEDUNGuSUKUy ILUTuTALINGzb REPA",
  "BALINESE VOWEL SIGN TALING REPA TEDUNGzcTEDUNGvEDUNGuULUx SARIjWINDUdL OF YARNeET SHOESeOON",
  "BALLOON-SPOKED ASTERISKfT BOLD SCRIPT XjXk WITH BALLOTrOLD CHECKvSCRIPT XqCHECKqLIGHT X",
  "BALLOT BOX WITH SCRIPT XqXhSCRIPT XhXcMUM COLONiMBINING MARK KOQNDONvTUKWENTISjMAgFULL STOP",
  "BAMUM LETTER AnEEnFAAMAEoEEoOMoUnInKAoENpTpUXoIoOpGHOMpVUUoPAoUoYEEnLAoEEEEoIoOQoUnMoAoBAApEN",
  "BAMUM LETTER MEEEEpNoIoOoUnNAoDAAoGApGApKWAENoIoJAEMpEEpUAEoSHAoTEEpUUoUpAEoYInOnPAoEEpUX",
  "BAMUM LETTER PHASE-A FIRIvGBIEE FONwHEUAEGHEUAEzcRAEvKAFAxQwETxUKEUTNDAwPOQwUOQvLAPAQwET KUT",
  "BAMUM LETTER PHASE-A LOMMAEwUxAEPvMAEKEUPyMzBGBIEEzKPENzVEUXyNYIySIxNSUAExP PIEETwBANYIyQ",
  "BAMUM LETTER PHASE-A MEUNJOMNDEUQwGBASAwON NGGEUAETxOMEUTzPUQwVEUAENGAMvNAA MFONxQwDA LEERAEWA",
  "BAMUM LETTER PHASE-A NDAANGGEUAETwENwGANGUxGENxKUE MFONzbNZEUMwIKAwJAMwKAARAExINDIwSHAyIEEwTAP",
  "BAMUM LETTER PHASE-A NTAP MFAAzbNTAAxOQPENwYETxIyT MONGKEUAEQwZA MFONxUN MEUTvPA LEERAEWAxAM",
  "BAMUM LETTER PHASE-A PAARAExMSHAExSHAEwETwON MFON PIPAEMBAzlGBIEEzPA NJI PIPAEMBAznGBIEEwUPvROM",
  "BAMUM LETTER PHASE-A SEUNYAMwHINDA PA NJIyRAExOQ NSHUT YUMxUENSHUETyMwISAwONJAMxQxTwUUvTEUAEN",
  "BAMUM LETTER PHASE-A TEUTEUWENwITA MFONwU MAEMBAxAEPvU YUQ NAEwNKNOWNvVEEtB FEExUXvGHEUGHEN",
  "BAMUM LETTER PHASE-B GHEUGHEUAEMvKAMwEUAEMyPUQyYEUXwIEEMxQvLAANAExM NSHUT NYAMwETwOM NTEUMvMA",
  "BAMUM LETTER PHASE-B MA NJEUAENAzbUQAwBA MAELEEyARAExEURIxIT MBAAKETxUOQwEUQyT NGGEETwFIYAQ",
  "BAMUM LETTER PHASE-B MFON TEUAEQwONTIEENvNDU NJAAwGGAAMyEU MBUyUOQzc LARGExKINDI MVOPxOMwSEN",
  "BAMUM LETTER PHASE-B NSHUETwTIEE SHEUOQwYAEMAExI NTEUMvPARUMwEESHIwITwUNGAAMvSAKEUAEwET TU",
  "BAMUM LETTER PHASE-B SHET NJAQyUAEQTUwIEEwUEvTAAMwU MAEMGBIEEyNSIEEvVEUMvWUAETvYAFU LEERAEWA",
  "BAMUM LETTER PHASE-B YEURAEtC BUNGvFUEvGBAYIwHAPyRAEvKAAwEN FATIGUEzLAWxTxUKAQyMySEUXzHEUAEP",
  "BAMUM LETTER PHASE-C KPARAQwUOP NKAARAExTvLAMxPwIQwUvMA KEUAERIyNSIEExEMBAySIwBAA CABBAGE-TREE",
  "BAMUM LETTER PHASE-C MBAA PICKETyNYIxEEKEETyRAEyUMzXxIyRIEENyTxUAEMyEwGBASAQwIEEwUAEvNANSANAQxQ",
  "BAMUM LETTER PHASE-C NDAMyPxEUAEREEzTxIDAxOMBUwGAQxGENyUzAEN NYAMzEETzMzONxKAQyUE MAEMBAxOM",
  "BAMUM LETTER PHASE-C NJAEMyMxEEEEyUXxUEQwSAxEUAENxHAQxOMxUNyOT NGOMwTAAxENyUNGBAxU MBIT",
  "BAMUM LETTER PHASE-C NYIR MKPARAQ MEUNwZAxEUMvPENwINxRIEENvRUvSETFONxUXwHIQxUEQwUAETvTAASHAEwET",
  "BAMUM LETTER PHASE-C TEUTEUXwITA YUEyUAEPvVEUAEPENyXvWANGKUOQwUPvYAAwEUQwU MUOMAExMxWOQtD FAA",
  "BAMUM LETTER PHASE-D FEUFEUAETvGHAAxEUAEvKETxUAETMEUNyMyOT MBUAEyPwUxNxOMxQwWAETwYEEvLEEEExT",
  "BAMUM LETTER PHASE-D LEUAEPyMwIEEwOQwUMvMwAENJETxLEERIwBAAz SEVENxUOwEEEExUNyTwFEUAEzTxIEExOyN",
  "BAMUM LETTER PHASE-D MGBEUNyIEEyOFUMwONIwUwVOPvNDAMxEEyUXxONwGGAAMzcAEzPyEUXyUOMyWAENxKAPyEUAEQ",
  "BAMUM LETTER PHASE-D NGKEURIyIEEyUNyYEEwIwJAPxEUAEMzTxIyEExUEQwSHEEyUTxIEEPzbTxUMwTEEyUMxUUwU",
  "BAMUM LETTER PHASE-D NYAMxETxIxUEvPAPwEExUTAEwIPwUQxUTvRAEMwEN MUCHzOLDwIIvSAPxQwEUAEQwHEEyUAE",
  "BAMUM LETTER PHASE-D SHEUXxIIxOQxUwOTwUAExExUvTAEwEEEExUAENyNyTwIwOQwUxOTvWAPwUAENvYAEMMAEwEN",
  "BAMUM LETTER PHASE-D YUOMyPxWOQtE AvFAxQwEEwOMwU CALLyIyREMEDYxEyTvGBETyUXwHAAMAExETyUAEzNzXxOM",
  "BAMUM LETTER PHASE-E IvKETxUAEyXwIwOwPEUXwUETxOPxTvLAAMxPxQwEUAEMwOMxONyTxQwUvMAxEyMxPxQwBEEyUM",
  "BAMUM LETTER PHASE-E MENwFEUQwGBAyENwIxEEwONwUAEwVIvNAxEwDAA MY HOUSEzbSOFTNESSyPxIAQyQxUNwGA",
  "BAMUM LETTER PHASE-E NGEUREUTxGEEEEzUAEzdTyUAESHAE NYAMzPzRAExKAzAMIyEUAEMzbXyUMzPxOPyQxUAEzbT",
  "BAMUM LETTER PHASE-E NJAEMLIxEEz EPOCHyUXwKOMwSHIEEyUEzOPwTAPxUMwYI BETWEENzCLEAVERwZAQxUQvO",
  "BAMUM LETTER PHASE-E PA PEOPLEzLURALxAyMwEEMxUTyXwIxEEQyTwOxONwUxAEyQxExMvRAExQwEUXwIMGBAvSAA",
  "BAMUM LETTER PHASE-E SEExTwHEUAEQxIQxOyQwOMwUAENvTAAyQxEN NTEUMxMxQwENxUyAEQwOOyNxQwUAExMyAE",
  "BAMUM LETTER PHASE-E VEExUAEwOMvWEUXwUExOvYAPwEUAEzbTyMyXwIEExTwOQ COVERzSWIMMINGwUAENxEQxNxQ",
  "BAMUM LETTER PHASE-F EEvFOMvKAwENxTwOwPAwUwYEEvLAwIwOQvMwAwBAAxENwEEEEwOvNDAAwGGAxKWAENwIwJAEM",
  "BAMUM LETTER PHASE-F NJUAEwSHAwTEEwUxAEwYIvPEExUXwUAEvREExNxUXwIEExIwUvSAMBAwEUXwHIIxOxUwIwUU",
  "BAMUM LETTER PHASE-F TAAxEwETvUvVUEQvWAwUEvYAwOQoIoUAEpEnRAEoEEpNpUXoIEEpIoUnSAMBAoEUXoHEUXpII",
  "BAMUM LETTER SHOpUoIoUUnTAApEoENpToInUnWAoUEnYAoOQoUQgNJAEMLIgQUESTION MARKgSEMICOLONcNANAdJOdK",
  "BANKNOTE WITH DOLLAR SIGNoEURO SIGNoPOUND SIGNoYEN SIGNcR CHARTeOF SOAPdBER POLEcSEBALLdKET",
  "BASKETBALL AND HOOPdSA VAH COMBINING HIGH TONEy-LOW TONEuLOW TONEx-MID TONEuMID TONEkFULL STOP",
  "BASSA VAH LETTER ArBArCErDHIIsOrEsEsNNIrFArGAHsBUrHWAHrIrJOrKAsPAHrMBErOsOrPArSErTOrUsWUrVUrWA",
  "BASSA VAH LETTER WADDArYEINsIErZOcTdAK CONSONANT SIGN HvNGgLETTER AnBAnCAnDAnGAnHAnInJAnKARO BA",
  "BATAK LETTER LAnMApNDAILING HAyNAySAoBAnNAoDAoGAoORTHERN TAoYAnPApKPAK WAnRAnSAoIMALUNGUN AyGA",
  "BATAK LETTER SIMALUNGUN HAyLAyMAyPAyRAySAyWAyYAoOUTHERN TAnUnWAnYAgPANGOLATjONGONANgSIGN TOMPI",
  "BATAK SYMBOL BINDU JUDULtNA METEKtPANGOLATuINARBORASgVOWEL SIGN EsErIrKARO IwOrOrPAKPAK ErU",
  "BATAK VOWEL SIGN U FOR SIMALUNGUN SAdHeTUBdTERYbEACH WITH UMBRELLAdMED ASCENDING MUSICAL NOTES",
  "BEAMED DESCENDING MUSICAL NOTEShEIGHTH NOTEShSIXTEENTH NOTESdNSdR FACEeDED PERSONdTING HEART",
  "BEAVERcCAUSEcDcER MUGdTLEcLdLe PEPPERfSYMBOLfWITH CANCELLATION STROKEeHOP BELL",
  "BENGALI ABBREVIATION SIGNjNJIjU LENGTH MARKiCURRENCY DENOMINATOR SIXTEENrNUMERATOR FOURzcONE",
  "BENGALI CURRENCY NUMERATOR ONE LESS THAN THE DENOMINATORzcTHREEzdWOiDIGIT EIGHToFIVEpOURoNINE",
  "BENGALI DIGIT ONEoSEVENpIXoTHREEpWOoZEROiGANDA MARKiISSHARiLETTER AqAqIqUpBAqHApCAqHApDAqDArHA",
  "BENGALI LETTER DHApEpGAqHApHApIqIpJAqHApKAqHAsNDA TApLApMApNAqGAqNAqYApOpPAqHApRA",
  "BENGALI LETTER RA WITH LOWER DIAGONALxMIDDLE DIAGONALqHAqRApSAqHAqSApTAqHAqTArHApUqU",
  "BENGALI LETTER VEDIC ANUSVARAqOCALIC LyLxRyRpYAqYAiRUPEE MARKoSIGNiSANDHI MARKjIGN ANUSVARA",
  "BENGALI SIGN AVAGRAHAnCANDRABINDUnNUKTAnVIRAMApSARGAiVOWEL SIGN AAuIuUtEtIuItOtUuUtVOCALIC LzdL",
  "BENGALI VOWEL SIGN VOCALIC RzdRdT ARROW POINTING DOWNWARDS THEN NORTH EASTeO BOXdZENE RING",
  "BENZENE RING WITH CIRCLEcT SYMBOLdWEENcVERAGE BOXbHAIKSUKI DANDAlIGIT EIGHTqFIVErOURqNINEqONE",
  "BHAIKSUKI DIGIT SEVENrIXqTHREErWOqZEROlOUBLE DANDAkGAP FILLER-1v2kHUNDREDS UNIT MARKkLETTER AsA",
  "BHAIKSUKI LETTER AIsUrBAsHArCAsHArDAsDAtHAsHArErGAsHArHArIsIrJAsHArKAsHArLArMArNAsGAsNAsYArOrPA",
  "BHAIKSUKI LETTER PHArRArSAsHAsSArTAsHAsTAtHArUsUrVAsOCALIC LzRzbRrYAkNUMBER EIGHTwYrFIFTYtVE",
  "BHAIKSUKI NUMBER FORTYtURrNINEvTYrONErSEVENwTYsIXuTYrTENsHIRTYtREEsWENTYtOkSIGN ANUSVARA",
  "BHAIKSUKI SIGN AVAGRAHApCANDRABINDUpVIRAMArSARGAkVOWEL SIGN AAwIwUvEvIwIvOvUwUvVOCALIC LzeRzfR",
  "BHAIKSUKI WORD SEPARATORbICYCLEgISTcG REVERSE SOLIDUSeSOLIDUScKINIcLLED CAPeIARDScOHAZARD SIGN",
  "BIRDdTHDAY CAKEcSONcTCOIN SIGNdING LIPbLACK BOWTIEgCENTRE WHITE STARhHESS BISHOP",
  "BLACK CHESS BISHOP ROTATED NINETY DEGREESzcTWO HUNDRED SEVENTY DEGREESmEQUIHOPPER",
  "BLACK CHESS EQUIHOPPER ROTATED NINETY DEGREESmKINGq ROTATED NINETY DEGREES",
  "BLACK CHESS KING ROTATED TWO HUNDRED SEVENTY DEGREESnNIGHTs ROTATED FORTY-FIVE DEGREES",
  "BLACK CHESS KNIGHT ROTATED NINETY DEGREESzcONE HUNDRED THIRTY-FIVE DEGREES",
  "BLACK CHESS KNIGHT ROTATED THREE HUNDRED FIFTEEN DEGREESzdWO HUNDRED SEVENTY DEGREES",
  "BLACK CHESS KNIGHT ROTATED TWO HUNDRED TWENTY-FIVE DEGREESs-BISHOPtQUEENtROOKmPAWN",
  "BLACK CHESS PAWN ROTATED NINETY DEGREESzTWO HUNDRED SEVENTY DEGREESmQUEEN",
  "BLACK CHESS QUEEN ROTATED NINETY DEGREESzbTWO HUNDRED SEVENTY DEGREESmROOK",
  "BLACK CHESS ROOK ROTATED NINETY DEGREESzTWO HUNDRED SEVENTY DEGREESmTURNED BISHOPtKINGuNIGHT",
  "BLACK CHESS TURNED PAWNtQUEENtROOKhIRCLEm FOR RECORDnWITH DOWN ARROWsTWO WHITE DOTS",
  "BLACK CIRCLE WITH WHITE DOT RIGHThLUB SUIThROSS ON SHIELDhURVED DOWNWARDS AND LEFTWARDS ARROW",
  "BLACK CURVED DOWNWARDS AND RIGHTWARDS ARROWnLEFTWARDS AND DOWNWARDS ARROWzcUPWARDS ARROW",
  "BLACK CURVED RIGHTWARDS AND DOWNWARDS ARROWzdUPWARDS ARROWnUPWARDS AND LEFTWARDS ARROW",
  "BLACK CURVED UPWARDS AND RIGHTWARDS ARROWgDIAMONDn CENTREDoMINUS WHITE XoON CROSSoSUIT",
  "BLACK DIAMOND WITH DOWN ARROWhOWN POINTING BACKHAND INDEXk-POINTING DOUBLE TRIANGLE",
  "BLACK DOWN-POINTING ISOSCELES RIGHT TRIANGLEuSMALL TRIANGLEuTRIANGLE",
  "BLACK DOWNWARDS EQUILATERAL ARROWHEADhRAUGHTS KINGpMANiOPLETgFLAGiORETTEhOLDERiUR POINTED STAR",
  "BLACK HARD SHELL FLOPPY DISKhEARTl SUITiXAGONhORIZONTAL ELLIPSEiURGLASSgLARGE CIRCLEmSQUARE",
  "BLACK LEFT LANE MERGElPOINTING BACKHAND INDEXuINDEXk-POINTING DOUBLE TRIANGLE",
  "BLACK LEFT-POINTING DOUBLE TRIANGLE WITH VERTICAL BARuISOSCELES RIGHT TRIANGLEuPOINTER",
  "BLACK LEFT-POINTING SMALL TRIANGLEuTRIANGLEkWARDS BULLETqEQUILATERAL ARROWHEAD",
  "BLACK LOWER LEFT TRIANGLEmRIGHT TRIANGLEiZENGEgMEDIUM DIAMONDoOWN-POINTING TRIANGLEzk CENTRED",
  "BLACK MEDIUM LEFT-POINTING TRIANGLEzk CENTREDoOZENGEnRIGHT-POINTING TRIANGLEzl CENTRED",
  "BLACK MEDIUM SMALL DIAMONDtLOZENGEtSQUAREoQUAREnUP-POINTING TRIANGLEzi CENTREDhOON LILITHgNIB",
  "BLACK OCTAGONgPARALLELOGRAMhENNANTjTAGONhUSHPINgQUESTION MARK ORNAMENTgRECTANGLE",
  "BLACK RIGHT POINTING BACKHAND INDEXvINDEXl-POINTING DOUBLE TRIANGLEzl WITH VERTICAL BAR",
  "BLACK RIGHT-POINTING ISOSCELES RIGHT TRIANGLEvPENTAGONwOINTERvSMALL TRIANGLEvTRIANGLE",
  "BLACK RIGHT-POINTING TRIANGLE WITH DOUBLE VERTICAL BARlWARDS ARROWwHEADrBULLET",
  "BLACK RIGHTWARDS EQUILATERAL ARROWHEADhOSETTEgSAFETY SCISSORShCISSORShHOGI PIECE",
  "BLACK SKULL AND CROSSBONEShLIGHTLY SMALL CIRCLEvSQUAREhMALL DIAMONDmLOZENGEmSQUAREnTAR",
  "BLACK SMILING FACEhNOWMANhPADE SUIThQUAREm BUTTONnCENTREDnFOR STOPhTARhUN WITH RAYSgTELEPHONE",
  "BLACK TINY DIAMONDlLOZENGElSQUAREhOUCHTONE TELEPHONEhRUCKhWO-WAY LEFT WAY TRAFFIC",
  "BLACK UNIVERSAL RECYCLING SYMBOLhP POINTING BACKHAND INDEXi-POINTING DOUBLE TRIANGLE",
  "BLACK UP-POINTING ISOSCELES RIGHT TRIANGLEsSMALL TRIANGLEsTRIANGLEiPER LEFT TRIANGLE",
  "BLACK UPPER RIGHT TRIANGLEiWARDS EQUILATERAL ARROWHEADgVERTICAL ELLIPSEpRECTANGLE",
  "BLACK VERY SMALL DIAMONDrLOZENGErSQUAREf-FEATHERED NORTH EAST ARROWqRIGHTWARDS ARROW",
  "BLACK-FEATHERED SOUTH EAST ARROWgLETTER CAPITAL CvHvIvRvZdNK SYMBOLcOCK SEXTANT-1p2q3r4s5s6r5s6",
  "BLOCK SEXTANT-1236q4r5s6r6q5r6q6p3q4r5s6r6q56q6p4q5r6q6p5q6p6o2p3q4r5s6r6q5r6q6p4q5r6p5q6p6o3p4",
  "BLOCK SEXTANT-345r6q6p5q6p6o4p5q6p6o5p6o6dSSOMdWFISHcUE BOOKfHEARTeBERRIESbOAR",
  "BOLD EIGHT SPOKED ASTERISKfFIVE SPOKED ASTERISKfGREEK CROSSfSALTIREgIX SPOKED ASTERISK",
  "BOLD WHITE CIRCLElSQUAREcMdBcNEcOKeMARKi TABSeSdMERANGcPOMOFO FINAL LETTER GwHwKwPwTjLETTER ArH",
  "BOPOMOFO LETTER AIsNNrMrNsGsNrUsNNqBrUqCrHqDqErErHrIrNsGsNrRqFqGrHrNrUrWqHqIrHrMrNNtNrRrUqJrIqK",
  "BOPOMOFO LETTER KWqLrHqMqNrGsGrNqOr WITH DOT ABOVErErMrNGsNrOrUqPqQqRqSrHqTqUrNNqVqXqZrHrIrY",
  "BOTTLE WITH POPPING CORKeOM ARC ANTICLOCKWISE ARROWhCURLY BRACKEThHALF BLACK CIRCLEmINTEGRAL",
  "BOTTOM HALF LEFT PARENTHESISmRIGHT PARENTHESIShLEFT CORNERnROPmHALF BRACKEThPARENTHESIS",
  "BOTTOM RIGHT CORNERoROPnHALF BRACKEThSQUARE BRACKETv OVER TOP SQUARE BRACKET",
  "BOTTOM TORTOISE SHELL BRACKETcUQUETh OF FLOWERScW AND ARROWdL OF HYGIEIAfWITH SPOONeINGdTIE",
  "BOWTIE WITH LEFT HALF BLACKmRIGHT HALF BLACKcX DRAWINGS DOUBLE DOWN AND HORIZONTALzeLEFTzeRIGHT",
  "BOX DRAWINGS DOUBLE HORIZONTALuUP AND HORIZONTALzcLEFTzcRIGHTuVERTICALzd AND HORIZONTALziLEFT",
  "BOX DRAWINGS DOUBLE VERTICAL AND RIGHTpWN DOUBLE AND HORIZONTAL SINGLEzeLEFT SINGLE",
  "BOX DRAWINGS DOWN DOUBLE AND RIGHT SINGLEsHEAVY AND HORIZONTAL LIGHTzdLEFT LIGHTziUP LIGHT",
  "BOX DRAWINGS DOWN HEAVY AND RIGHT LIGHTzjUP LIGHTzdUP HORIZONTAL LIGHT",
  "BOX DRAWINGS DOWN LIGHT AND HORIZONTAL HEAVYzdLEFT HEAVYziUP HEAVYzdRIGHT HEAVYzjUP HEAVY",
  "BOX DRAWINGS DOWN LIGHT AND UP HORIZONTAL HEAVYsSINGLE AND HORIZONTAL DOUBLEzeLEFT DOUBLE",
  "BOX DRAWINGS DOWN SINGLE AND RIGHT DOUBLEnHEAVY DOUBLE DASH HORIZONTALzgVERTICALvWN",
  "BOX DRAWINGS HEAVY DOWN AND HORIZONTALzdLEFTzdRIGHTtHORIZONTALtLEFTx AND LIGHT RIGHT",
  "BOX DRAWINGS HEAVY QUADRUPLE DASH HORIZONTALzjVERTICALtRIGHTtTRIPLE DASH HORIZONTALzgVERTICAL",
  "BOX DRAWINGS HEAVY UPv AND HORIZONTALzbLEFTzcIGHT DOWNzbRIGHTtVERTICALzc AND HORIZONTALzhLEFT",
  "BOX DRAWINGS HEAVY VERTICAL AND RIGHTnLEFT DOWN HEAVY AND RIGHT UP LIGHT",
  "BOX DRAWINGS LEFT HEAVY AND RIGHT DOWN LIGHTzjUP LIGHTzjVERTICAL LIGHT",
  "BOX DRAWINGS LEFT LIGHT AND RIGHT DOWN HEAVYzjUP HEAVYzjVERTICAL HEAVY",
  "BOX DRAWINGS LEFT UP HEAVY AND RIGHT DOWN LIGHToIGHT ARC DOWN AND LEFTzhRIGHTxUP AND LEFT",
  "BOX DRAWINGS LIGHT ARC UP AND RIGHTtDIAGONAL CROSSzdDIAMONDzdMIDDLE LEFT TO LOWER CENTRE",
  "BOX DRAWINGS LIGHT DIAGONAL MIDDLE LEFT TO LOWER CENTRE TO MIDDLE RIGHT",
  "BOX DRAWINGS LIGHT DIAGONAL MIDDLE LEFT TO UPPER CENTRE TO MIDDLE RIGHTzzv TO LOWER CENTRE",
  "BOX DRAWINGS LIGHT DIAGONAL MIDDLE RIGHT TO LOWER CENTRE",
  "BOX DRAWINGS LIGHT DIAGONAL MIDDLE RIGHT TO UPPER CENTRE TO MIDDLE LEFT TO LOWER CENTRE",
  "BOX DRAWINGS LIGHT DIAGONAL UPPER CENTRE TO MIDDLE LEFTzzf AND MIDDLE RIGHT TO LOWER CENTRE",
  "BOX DRAWINGS LIGHT DIAGONAL UPPER CENTRE TO MIDDLE LEFT TO LOWER CENTREzzv TO MIDDLE RIGHT",
  "BOX DRAWINGS LIGHT DIAGONAL UPPER CENTRE TO MIDDLE RIGHTzzg AND MIDDLE LEFT TO LOWER CENTRE",
  "BOX DRAWINGS LIGHT DIAGONAL UPPER CENTRE TO MIDDLE RIGHT TO LOWER CENTREzzw TO MIDDLE LEFT",
  "BOX DRAWINGS LIGHT DIAGONAL UPPER LEFT TO LOWER RIGHTzjRIGHT TO LOWER LEFT",
  "BOX DRAWINGS LIGHT DOUBLE DASH HORIZONTALzgVERTICALvWNx AND HORIZONTALzdLEFTzdRIGHTtHORIZONTAL",
  "BOX DRAWINGS LIGHT HORIZONTAL WITH VERTICAL STROKEtLEFTx AND HEAVY RIGHT",
  "BOX DRAWINGS LIGHT QUADRUPLE DASH HORIZONTALzjVERTICALtRIGHTtTRIPLE DASH HORIZONTALzgVERTICAL",
  "BOX DRAWINGS LIGHT UPv AND HEAVY DOWNzcORIZONTALzbLEFTzbRIGHTtVERTICALzc AND HORIZONTALzhLEFT",
  "BOX DRAWINGS LIGHT VERTICAL AND RIGHTnRIGHT DOWN HEAVY AND LEFT UP LIGHT",
  "BOX DRAWINGS RIGHT HEAVY AND LEFT DOWN LIGHTzjUP LIGHTzjVERTICAL LIGHT",
  "BOX DRAWINGS RIGHT LIGHT AND LEFT DOWN HEAVYzjUP HEAVYzjVERTICAL HEAVY",
  "BOX DRAWINGS RIGHT UP HEAVY AND LEFT DOWN LIGHTnUP DOUBLE AND HORIZONTAL SINGLEzcLEFT SINGLE",
  "BOX DRAWINGS UP DOUBLE AND RIGHT SINGLEqHEAVY AND DOWN HORIZONTAL LIGHTzbHORIZONTAL LIGHT",
  "BOX DRAWINGS UP HEAVY AND LEFT DOWN LIGHTzgLIGHTzbRIGHT DOWN LIGHTzhLIGHT",
  "BOX DRAWINGS UP LIGHT AND DOWN HORIZONTAL HEAVYzbHORIZONTAL HEAVYzbLEFT DOWN HEAVYzgHEAVY",
  "BOX DRAWINGS UP LIGHT AND RIGHT DOWN HEAVYzhHEAVYqSINGLE AND HORIZONTAL DOUBLEzcLEFT DOUBLE",
  "BOX DRAWINGS UP SINGLE AND RIGHT DOUBLEnVERTICAL DOUBLE AND HORIZONTAL SINGLEziLEFT SINGLE",
  "BOX DRAWINGS VERTICAL DOUBLE AND RIGHT SINGLEwHEAVY AND HORIZONTAL LIGHTzhLEFT LIGHT",
  "BOX DRAWINGS VERTICAL HEAVY AND RIGHT LIGHTwLIGHT AND HORIZONTAL HEAVYzhLEFT HEAVYzhRIGHT HEAVY",
  "BOX DRAWINGS VERTICAL SINGLE AND HORIZONTAL DOUBLEziLEFT DOUBLEziRIGHT DOUBLEdING GLOVEcY",
  "BOYS SYMBOLbPHbRAHMI DANDAiIGIT EIGHTnFIVEoOURnNINEnONEnSEVENoIXnTHREEoWOnZEROiOUBLE DANDA",
  "BRAHMI LETTER ApApIpUoBApHAoCApHAoDApDAqHApHAoEoGApHAoHAoIpIoJApHAoKApHAoLApLAoMAoNApGApNApYAoO",
  "BRAHMI LETTER OLD TAMIL LLAzbLAyNNNAyRRAySHORT EzfOoPApHAoRAoSApHApSAoTApHApTAqHAoUpUoVA",
  "BRAHMI LETTER VOCALIC LxLwRxRoYAhNUMBER EIGHTtYoFIFTYqVEpORTYqURoJOINERoNINEsTYoONEr HUNDRED",
  "BRAHMI NUMBER ONE THOUSANDoSEVENtTYpIXrTYoTENpHIRTYqREEpWENTYqOhPUNCTUATION CRESCENT BARtDOT",
  "BRAHMI PUNCTUATION DOUBLE DOTtLINEuOTUShSIGN ANUSVARAmCANDRABINDUmJIHVAMULIYAmOLD TAMIL VIRAMA",
  "BRAHMI SIGN UPADHMANIYAmVISARGAhVIRAMAiOWEL SIGN AAtItUsBHATTIPROLU AAsEsItIsOtLD TAMIL SHORT E",
  "BRAHMI VOWEL SIGN OLD TAMIL SHORT OsUtUsVOCALIC LzcLzbRzcRdILLE PATTERN BLANKqDOTS-1w2x3y4z5zb6",
  "BRAILLE PATTERN DOTS-1234567zd8zc8zb7zc8zb8z6zb7zc8zb8z7zb8z8y5z6zb7zc8zb8z7zb8z8y6z7zb8z8y7z8",
  "BRAILLE PATTERN DOTS-1238x4y5z6zb7zc8zb8z7zb8z8y6z7zb8z8y7z8y8x5y6z7zb8z8y7z8y8x6y7z8y8x7y8x8w3",
  "BRAILLE PATTERN DOTS-134y5z6zb7zc8zb8z7zb8z8y6z7zb8z8y7z8y8x5y6z7zb8z8y7z8y8x6y7z8y8x7y8x8w4x5",
  "BRAILLE PATTERN DOTS-1456z7zb8z8y7z8y8x6y7z8y8x7y8x8w5x6y7z8y8x7y8x8w6x7y8x8w7x8w8v2w3x4y5z6zb7",
  "BRAILLE PATTERN DOTS-2345678zb8z7zb8z8y6z7zb8z8y7z8y8x5y6z7zb8z8y7z8y8x6y7z8y8x7y8x8w4x5y6z7zb8",
  "BRAILLE PATTERN DOTS-24568y7z8y8x6y7z8y8x7y8x8w5x6y7z8y8x7y8x8w6x7y8x8w7x8w8v3w4x5y6z7zb8z8y7z8",
  "BRAILLE PATTERN DOTS-3458x6y7z8y8x7y8x8w5x6y7z8y8x7y8x8w6x7y8x8w7x8w8v4w5x6y7z8y8x7y8x8w6x7y8x8",
  "BRAILLE PATTERN DOTS-47x8w8v5w6x7y8x8w7x8w8v6w7x8w8v7w8v8eNcEADeK PERMITTED HEREeST-FEEDINGdVE",
  "BRICKdDE WITH VEILeGE AT NIGHTdEFCASEfScOCCOLIdKEN BARhCIRCLE WITH NORTHWEST ARROWhHEARTdOM",
  "BROWN HEARTbSbUBBLE TEAgScCKETcGdINESE END OF SECTIONjLETTER AqBAqCAqDAqGAqHAqJAqKAqLAqMArPAqNA",
  "BUGINESE LETTER NGAsKArRArYAsCAqPAqRAqSAqTAqVAqYAjPALLAWAjVOWEL SIGN AEuEuIuOuUcHID LETTER AnBA",
  "BUHID LETTER DAnGAnHAnInKAnLAnMAnNAoGAnPAnRAnSAnTAnUnWAnYAgVOWEL SIGN IrUcILDING CONSTRUCTION",
  "BULLETg OPERATOReHORNi WITH SOUND WAVESeSEYEcRRITOcSd STOPdT IN SILHOUETTEeS IN SILHOUETTEcTTER",
  "BUTTERFLYbYTE ORDER MARKcZANTINE MUSICAL SYMBOL AGOGI ARGIzjOTERIzgGORGIzkOTERIzgMESIziTRIA",
  "BYZANTINE MUSICAL SYMBOL AGOGI POLI ARGIzlGORGIzbNATRICHISMAzcTIKENOKYLISMAziMA",
  "BYZANTINE MUSICAL SYMBOL APESO EKFONITIKONzhXO NEOzcLIzcODERMA ARCHAIONzjNEO",
  "BYZANTINE MUSICAL SYMBOL APOSTROFOI SYNDESMOS NEOzlTELOUS ICHIMATOSzjSzk DIPLIzlNEOzdTHEMA",
  "BYZANTINE MUSICAL SYMBOL ARGONzeSYNTHETONzcKTIKO DIziGAziKEziNIziPAziVOUziZOzCHAMILIzgON",
  "BYZANTINE MUSICAL SYMBOL CHOREVMA ARCHAIONzjNEOzcROA KLITONzgSPATHIzgZYGOSzDASEIAzbIARGON",
  "BYZANTINE MUSICAL SYMBOL DIASTOLI APLI MEGALIzpIKRIzjDIPLIzjTHESEOSzcESIS APLI DYO DODEKATA",
  "BYZANTINE MUSICAL SYMBOL DIESIS DIGRAMMOS EX DODEKATAzhMONOGRAMMOS TESSERA DODEKATA",
  "BYZANTINE MUSICAL SYMBOL DIESIS TETARTIMORIONziRIGRAMMOS OKTO DODEKATAzkTIMORIONzcFTOGGOS OU",
  "BYZANTINE MUSICAL SYMBOL DIGORGONzi PARESTIGMENON ARISTERA ANOzzhKATOzxDEXIAzdRAMMA GGzcPLI",
  "BYZANTINE MUSICAL SYMBOL DIPLI ARCHAIONzbYOzEKSTREPTONzbLAFRONzbNARXIS KAI FTHORA VOUzcDOFONON",
  "BYZANTINE MUSICAL SYMBOL EPEGERMAzbTERON ARGOSYNTHETONzhPARAKALESMAzbXO EKFONITIKON",
  "BYZANTINE MUSICAL SYMBOL FANEROSIS DIFONIASzkMONOFONIASzkTETRAFONIAS",
  "BYZANTINE MUSICAL SYMBOL FHTORA SKLIRON CHROMA VASISzbTHORA ARCHAIONzp DEYTEROU ICHOU",
  "BYZANTINE MUSICAL SYMBOL FTHORA DIATONIKI DIzrKEzrNANAzsI ANOzuKATOzrPAzrZO",
  "BYZANTINE MUSICAL SYMBOL FTHORA ENARMONIOS ANTIFONIAzhI YFESIS TETARTIMORION",
  "BYZANTINE MUSICAL SYMBOL FTHORA MALAKON CHROMA DIFONIASzwMONOFONIASzhNAOS ICHOSziENANO",
  "BYZANTINE MUSICAL SYMBOL FTHORA SKLIRON CHROMA SYNAFIzwVASISzpDIATONON DIzGENIKI DIESISzhYFESIS",
  "BYZANTINE MUSICAL SYMBOL GORGON ARCHAIONzhNEO ANOzlKATOzhPARESTIGMENON ARISTERAzvDEXIA",
  "BYZANTINE MUSICAL SYMBOL GORGOSYNTHETONzdTHMIKON N APLOUNznDIPLOUNzbRONTHISMATAzICHADIN",
  "BYZANTINE MUSICAL SYMBOL IMIDIARGONzdFONONzeTHORAziONzbSAKIA TELOUS ICHIMATOSzcON ARCHAIONzfNEO",
  "BYZANTINE MUSICAL SYMBOL KATAVA TROMIKONzgSMAzdHISTIzbENTIMA ARCHAIONziNEO ANOzmKATOzmMESOzhTA",
  "BYZANTINE MUSICAL SYMBOL KENTIMATA ARCHAIONzkNEO ANOzoKATOzoMESOzbLASMAzg ANOzhKATOzbONTEVMA",
  "BYZANTINE MUSICAL SYMBOL KONTEVMA ALLOzcRONISzcUFISMAzbRATIMA ALLOzjRCHAIONziNEOzhTAzgOKOUFISMA",
  "BYZANTINE MUSICAL SYMBOL KRATIMOYPORROONzcEMASTIzbYLISMAzLEIMMA DYO CHRONONzhENOS CHRONOU",
  "BYZANTINE MUSICAL SYMBOL LEIMMA IMISEOS CHRONOUzhTESSARON CHRONONziRION CHRONONzcMOIzbYGISMA",
  "BYZANTINE MUSICAL SYMBOL MARTYRIA ALLI DEYTEROS ICHOSzoPROTOS ICHOSzjDEYTEROS ICHOS",
  "BYZANTINE MUSICAL SYMBOL MARTYRIA LEGETOS ICHOSzjPLAGIOS ICHOSzrTETARTOS ICHOSzkROTOS ICHOS",
  "BYZANTINE MUSICAL SYMBOL MARTYRIA PROTOVARYS ICHOSzjTETARTOS ICHOSzsLEGETOS ICHOSzkRIFONIAS",
  "BYZANTINE MUSICAL SYMBOL MARTYRIA TRITOS ICHOSzjVARYS ICHOSzbIKRON ISONzNANAzOLIGON ARCHAION",
  "BYZANTINE MUSICAL SYMBOL OLIGON NEOzbMALONzbXEIA DIPLIzgEKFONITIKONzgNEOzfI ARCHAION",
  "BYZANTINE MUSICAL SYMBOL OYRANISMA ARCHAIONzkNEOzPARAKALESMA ARCHAIONzmNEOzfLITIKIzl ARCHAION",
  "BYZANTINE MUSICAL SYMBOL PARAKLITIKI NEOzdICHONzbELASTONzi NEOzcRISPOMENIzcTASMAzfTIzgOKOUFISMA",
  "BYZANTINE MUSICAL SYMBOL PIASMA ARCHAIONzhNEOzbSIFISTOLYGISMAziNzj NEOziPARAKALESMAziSYNAGMA",
  "BYZANTINE MUSICAL SYMBOL PSILIzeONzRAPISMAzbEVMAzSAXIMATAzbEISMAzg NEOzbIMANSIS ARSEOS",
  "BYZANTINE MUSICAL SYMBOL SIMANSIS ARSEOS DISIMOUzqTETRASIMOUzrRISIMOUzjTHESEOSzq DISIMOU",
  "BYZANTINE MUSICAL SYMBOL SIMANSIS THESEOS TETRASIMOUzsRISIMOUzbTAVROSzh APODEXIAzcIGMA",
  "BYZANTINE MUSICAL SYMBOL STRAGGISMATAzbYNAGMA ARCHAIONziMETA STAVROUziNEOzdEVMAzcRMAzfTIKI",
  "BYZANTINE MUSICAL SYMBOL TELEIAzcSSERAzcTRAPLIzbHEMAzf APLOUNzfTISMOS ESOznXOzdS KAI APOTHES",
  "BYZANTINE MUSICAL SYMBOL THITAzbINAGMAzbRIAzdGORGONzdPLIzcOMIKOLYGISMAzhN ALLOzkRCHAIONzjNEO",
  "BYZANTINE MUSICAL SYMBOL TROMIKOPARAKALESMAziSIFISTONzhSYNAGMAzVAREIA DIPLIzhEKFONITIKONzhNEO",
  "BYZANTINE MUSICAL SYMBOL VAREIAI ARCHAIONzcTHYzXIRON KLASMAzYFEN ANOzfKATO",
  "BYZANTINE MUSICAL SYMBOL YFESIS APLI DYO DODEKATAzhDIGRAMMOS EX DODEKATA",
  "BYZANTINE MUSICAL SYMBOL YFESIS MONOGRAMMOS TESSERA DODEKATAzhTRIGRAMMOS OKTO DODEKATA",
  "BYZANTINE MUSICAL SYMBOL YFESIS TRITIMORIONzbPOKRISISzj DIPLIzdRROIzcSILIaCACTUScDA UNAdUCEUS",
  "CALENDARdL ME HANDcMERAg WITH FLASHdPINGcNdADIAN SYLLABICS AuAvIvYuIvVILIK BuNuTHAPASCAN MzfSuY",
  "CANADIAN SYLLABICS BEAVER DENE LzgRuIBLE-CREE YuLACKFOOT AzeEzeIzeKAzfEzfIzfOzeNAzfEzfIzfOzeO",
  "CANADIAN SYLLABICS BLACKFOOT SzeWzfAzfEzfIzfOtCuAvAwIvRRIER CHAzeEzfEzeIzeOzeUzcDEEzeNE GEE",
  "CANADIAN SYLLABICS CARRIER DENTAL SzdIzdLAzeEzfEzeIzeOzeUzdZAzeEzfEzeIzeOzeUzcEEzcGAzeAzdEzeE",
  "CANADIAN SYLLABICS CARRIER GHAzeEzfEzeIzeOzeUzdIzdOzdUzdWAzeUzcHzdEEzdIzdWAzeEzfEzeIzeOzeUzcI",
  "CANADIAN SYLLABICS CARRIER INITIAL ZzcJAzdEzeEzdIzdJAzeEzfEzeIzeOzeUzdOzdUzdWAzcKHAzeEzfEzeIzeO",
  "CANADIAN SYLLABICS CARRIER KHUzdKzeAzeEzfEzeIzeOzeUzcLAzdEzeEzdHAzeEzfEzeIzeOzeUzdIzdOzdUzcMA",
  "CANADIAN SYLLABICS CARRIER MEzeEzdIzdOzdUzcNAzdEzeEzdGzdIzdOzdUzcPzdAzdEzeEzdIzdOzdUzcRAzdEzeE",
  "CANADIAN SYLLABICS CARRIER RIzdOzdUzcSAzdEzeEzdHzeAzeEzfEzeIzeOzeUzdIzdOzdUzcTHAzeEzfEzeIzeOzeU",
  "CANADIAN SYLLABICS CARRIER TLAzeEzfEzeHAzfEzgEzfIzfOzfUzeIzeOzeUzdSAzeEzfEzeIzeOzeUzdTAzeEzfE",
  "CANADIAN SYLLABICS CARRIER TTIzeOzeSAzfEzgEzfIzfOzfUzeUzcWAzdEzeEzdIzdOzdUzcYAzdEzeEzdIzdOzdU",
  "CANADIAN SYLLABICS CARRIER ZzdAzdEzeEzdIzdOzdUuEuHI SIGNuIvIuOvOuWAwAvEvIwIvOwOtEuASTERN WuNtF",
  "CANADIAN SYLLABICS FAvAwIuEuIvIvNAL ACUTEzBOTTOM HALF RINGzDOUBLE ACUTEzhSHORT VERTICAL STROKES",
  "CANADIAN SYLLABICS FINAL DOWN TACKzGRAVEzMIDDLE DOTzPLUSzRAISED DOTzbIGHT HALF RINGzcNG",
  "CANADIAN SYLLABICS FINAL SHORT HORIZONTAL STROKEzbMALL RINGzTOP HALF RINGuOvOuULL STOPuWAA",
  "CANADIAN SYLLABICS GLOTTAL STOPtHKuYPHENtIuIuNtKuAvAwIvYuEuIvIuOvOuWvAwAwYvEvIwIvOwOtLuAvAwIvY",
  "CANADIAN SYLLABICS LEuHvAwAvIwIvOwOuIvIuOvOuWAwAvEvIwIvOwOtMuAvAwIvYuEvDIAL LzbRuHuIvIuOvO",
  "CANADIAN SYLLABICS MOOSE-CREE SKuWAwAvEvIwIvOwOtNu-CREE THEzdIzeIuAvAwIvSKAPI CWAAzcKWAAzcMWAA",
  "CANADIAN SYLLABICS NASKAPI NWAAzcS-WzdCWAzdKWzfAzdPWAzdTWAzdWAAzcTWAAzcWAAzdOOzcYWAAvTTILIK HA",
  "CANADIAN SYLLABICS NATTILIK HAAzeIzfIzeOzfOzdSHRAzhAzgIzhIzgOzhOvYuEuGvAwAxIwIvIwIvOwOuHuIvIuNG",
  "CANADIAN SYLLABICS NNGAxAwIxIwOxOuOvOvYuUNAVIK HzdAzeAzdEzdIzeIzdOzeOyUT HuWAwAvEvIwIvOwOtO",
  "CANADIAN SYLLABICS OJIBWAY CzcKzcMzcNzdWIzfIzeOzfOzcPzcSzdHzcTuNuOuYtPuAvAwIvYuEuIvIuOvOvYuWAwA",
  "CANADIAN SYLLABICS PWEvIwIvOwOwYtQuAvAwIvIuIvIuOvOtRu-CREE REzcWEuAvAwIvYuEuIvIuOvOuWAwAvEEvIwI",
  "CANADIAN SYLLABICS RWOwOtSuAvAwIvYwISI HAzcEzcIzcOzdOzbJIzcUzdUzbMzbSHAzdEzdIzdOzeOzdWEzbTHzbYI",
  "CANADIAN SYLLABICS SEuHvAwAwYvEvIwIvOwOwYvWAxAwEwIxIwOxOxYuIvIuOvOvUTH-SLAVEY KAHziEHziIHziOHvY",
  "CANADIAN SYLLABICS SPAvEvIvOuWvAwAvEvIwIvOwOtTuAvAwIvYuEuHv-CREE THzeAzfAzeEzeIzfIzeOzfOvAwAvE",
  "CANADIAN SYLLABICS THIwIvOwOvWAxAwEuIvIuLHAwEwIwOxOwWEuOvOuTAvEvHwAxAwEwIwOxOwWEvIvOuWAwAvEvIwI",
  "CANADIAN SYLLABICS TWOwOuYAvEvIvOtWAvAvYuEvST-CREE CWAzhAzgEzgIzhIzgOzhOzeFWAAzeKWAzhAzgEzgIzhI",
  "CANADIAN SYLLABICS WEST-CREE KWOzhOzeLzfAzgAzfEzfOzgOzfWAzhAzgEzgIzhIzgOzhOzeMzfWAzhAzgEzgIzhI",
  "CANADIAN SYLLABICS WEST-CREE MWOzhOzeNWAzhAzgEzePzfWAzhAzgEzgIzhIzgOzhOzeRzfAzfEzfIzfOzfWAA",
  "CANADIAN SYLLABICS WEST-CREE SHWAziAzhEzhIziIzhOziOzfWAzhAzgEzgIzhIzgOzhOzeTHWAAzfWAzhAzgEzgI",
  "CANADIAN SYLLABICS WEST-CREE TWIIzgOzhOzeWAzgAzfEzfIzgIzfOzgOzeYzfWAzhAzgEzgIzhIzgOzhOxERN WuI",
  "CANADIAN SYLLABICS WIIuOvOwDS-CREE FINAL THzfTHzhAzhEzhIzhOzhWAzjAziEEziIzjIziOzjOtYu-CREE COO",
  "CANADIAN SYLLABICS Y-CREE KOOzbLOOzbMOOzbNOOzbOOzbPOOzcWAAzbSOOzbTOOzbWzbYOOuAvAwIvYuEuIvIuOvO",
  "CANADIAN SYLLABICS YOYuWAwAvEvIwIvOwOdCELg CHARACTERhTAGgLATION XfRdDLEeYdNED FOODdOEcPITULUM",
  "CAPRICORNcR SLIDINGdD FILE BOXfINDEXk DIVIDERSdE OFeTf INSERTION POINTdIAN LETTER Ap2oBoC-18q39",
  "CARIAN LETTER Dp2oEp2oGp2oIpIoKp2oLpDq2oMpBq2q3q4oNpDpGpNoOoPp2oQoRpRoSpHq2pSpTq2oTpTq2oUpUqUr2",
  "CARIAN LETTER UUU3rUoXdONeUSEL HORSEdP STREAMEReENTRY SAWdRIAGE RETURNeOTcSTLEcTd FACE",
  "CAT FACE WITH TEARS OF JOYoWRY SMILEcUCASIAN ALBANIAN CITATION MARKtLETTER ALTzcORzbBETzbCAR",
  "CAUCASIAN ALBANIAN LETTER CAYNzcHAzeTzdIzdOYzcYAWzeYzbDATzcYANzcZAYzdYAYzbEBzcYNzbFAMzbGHEYS",
  "CAUCASIAN ALBANIAN LETTER GIMzbHEYTzbINYAzcRBzcWNzbJAYNzcHOXzbKARzcIWzbLANzcYITzbMAQzbNOWCzbON",
  "CAUCASIAN ALBANIAN LETTER PENzcIWRzbQARzdYzbRATzbSEYKzcHAzeKzdOYzbTASzcIWRzcYAYzbVEYZzbXEYN",
  "CAUCASIAN ALBANIAN LETTER YAYDzcOWDzbZARLzcHAzdILdTION SIGNbCHbEDI SIGNeLLAcLTIC CROSScNT SIGN",
  "CENTRE LINE SYMBOLgLINE LOW LINElOVERLINEcRESbGJbHAINSeRdKMA AU MARKhDANDAiIGIT EIGHTnFIVEoOUR",
  "CHAKMA DIGIT NINEnONEnSEVENoIXnTHREEoWOnZEROiOUBLE DANDAhLETTER AAoBAApHAAoCAApHAAoDAApDAAqHAA",
  "CHAKMA LETTER DHAAoEoGAApHAAoHAAoIoJAApHAAoKAApHAAoLAApHAAoMAAoNAApGAApNAApYAAoPAApHAAoRAAoSAA",
  "CHAKMA LETTER TAApHAApTAAqHAAoUoVAAoWAAoYAApYAAhMAAYYAAhO MARKhQUESTION MARKhSECTION MARK",
  "CHAKMA SIGN ANUSVARAmCANDRABINDUmVISARGAhVIRAMAiOWEL SIGN AtAtItUsEtIsItIsOtIsUtU",
  "CHAM CONSONANT SIGN FINAL HzbMzbNGuLAuRAuWAuYAfDIGIT EIGHTlFIVEmOURlNINElONElSEVENmIXlTHREEmWO",
  "CHAM DIGIT ZEROfLETTER AnImBAnBAnHAmCHAoHAmDAnDAnHAmEmFINAL CHsGsKsLsNtGsPsRsSSsTsYmGAnHAmHAmI",
  "CHAM LETTER JAnHAmKAnHAmLAmMAnUEmNAnGAoUEnHAoJAoUEnUEmOmPAnHAnPAmRAmSAnSAmTAnHAmUmVAmYA",
  "CHAM PUNCTUATION DANDAsOUBLE DANDArSPIRALrTRIPLE DANDAfVOWEL SIGN AArIrUqEIqIrIqOrEqUrE",
  "CHARACTER TABULATIONu SETvWITH JUSTIFICATIONlIEeT WITH DOWNWARDS TRENDlUPWARDS TREND",
  "CHART WITH UPWARDS TREND AND YEN SIGNcECK MARKfER BOARDn FILLdERING MEGAPHONEeSE WEDGE",
  "CHEQUERED FLAGdROKEE LETTER AqDArErIrLArOrUrVqEqGArErIrOrUrVqHArErIrNArOrUrVqIqKAqLArErIrOrUrV",
  "CHEROKEE LETTER MArErIrOrUrVqNAsHrErIrOrUrVqOqQUAsEsIsOsUsVqSrArErIrOrUrVqTArErIrLAsEsIsOsUsV",
  "CHEROKEE LETTER TSAsEsIsOsUsVqUqVqWArErIrOrUrVqYArErIrOrUrVjSMALL LETTER AwDAxExIxLAxOxUxVwEwGA",
  "CHEROKEE SMALL LETTER GExIxOxUxVwHAxExIxNAxOxUxVwIwKAwLAxExIxOxUxVwMAxExIxOxUxVwNAyHxExIxOxUxV",
  "CHEROKEE SMALL LETTER OwQUAyEyIyOyUyVwSxAxExIxOxUxVwTAxExIxLAyEyIyOyUyVxSAyEyIyOyUyVwUwVwWAxExI",
  "CHEROKEE SMALL LETTER WOxUxVwYAxExIxOxUxVeRIESfY BLOSSOMdSTNUTcI RHOdCKENdLDfREN CROSSINGdPMUNK",
  "CHIRONcOCOLATE BARdPSTICKSdRASMIAN LETTER ALEPHtYINsBETHsCURLED WAWsDALETHsGIMELsHEuTHsKAPH",
  "CHORASMIAN LETTER LAMEDHsMEMsNUNsPEsRESHsSAMEKHtHINtMALL ALEPHsTAWsWAWsYODHsZAYINlNUMBER FOUR",
  "CHORASMIAN NUMBER ONEv HUNDREDsTENtHREEtWENTYuOcRISTMAS TREEcURCHbINEMA",
  "CIRCLE DIVIDED BY HORIZONTAL BAR AND TOP HALF DIVIDED BY VERTICAL BAR",
  "CIRCLE WITH ALL BUT UPPER LEFT QUADRANT BLACKmHORIZONTAL BARmLEFT HALF BLACKnOWER HALF BLACK",
  "CIRCLE WITH RIGHT HALF BLACKmSMALL CIRCLE TO THE RIGHTnUPERIMPOSED X",
  "CIRCLE WITH TWO HORIZONTAL STROKES TO THE RIGHTmUPPER HALF BLACKsRIGHT QUADRANT BLACK",
  "CIRCLE WITH VERTICAL FILLgD ANTICLOCKWISE ARROWv-ROTATED DIVISION SIGNjSTERISK OPERATORiBOLD X",
  "CIRCLED BULLETiC WITH OVERLAID BACKSLASHjCjDjROSS FORMEEu WITH FOUR DOTSzbTWO DOTSoPOMMEE",
  "CIRCLED CROSSING LANESiDASHjIGIT EIGHToFIVEpOURoNINEoONEoSEVENpIXoTHREEpWOoZEROkVISION SIGN",
  "CIRCLED DIVISION SLASHjOLLAR SIGN WITH OVERLAID BACKSLASHkT OPERATORiEQUALSiGREATER-THAN",
  "CIRCLED HANGUL CHIEUCHw AqIEUCu ApHIEUHu ApIEUNGu AvUpKHIEUKHw AqIYEOKv ApMIEUMu ApNIEUNu A",
  "CIRCLED HANGUL PHIEUPHw AqIEUPu ApRIEULu ApSIOSt ApTHIEUTHw AqIKEUTv A",
  "CIRCLED HEAVY WHITE RIGHTWARDS ARROWjORIZONTAL BAR WITH NOTCHjUMAN FIGUREiIDEOGRAPH ACCEPT",
  "CIRCLED IDEOGRAPH ADVANTAGEtLLIANCEtTTENTIONsCENTREtONGRATULATIONuPYuRRECTsEARTHtIGHTtNTERPRISE",
  "CIRCLED IDEOGRAPH EXCELLENTsFEMALEtINANCIALuREuVEtOURsHAVEtIGHsITEMsKINDERGARTENtOTOsLABORtEFT",
  "CIRCLED IDEOGRAPH LOWsMALEtEDICINEuTALtOONsNAMEtIGHTuNEsONEsPRINTsQUESTIONsRELIGIONuSOURCEvT",
  "CIRCLED IDEOGRAPH RIGHTsSCHOOLtECRETuVENtIXtOCIETYtPECIALtTOCKuUDYtUITABLEuNuPERVISEsTENtHREE",
  "CIRCLED IDEOGRAPH TWOsWATERtOODjNFORMATION SOURCEjTALIC LATIN CAPITAL LETTER CzlRiKATAKANA ArE",
  "CIRCLED KATAKANA HAsEsIsOsUrIrKAsEsIsOsUrMAsEsIsOsUrNAsEsIsOsUrOrRAsEsIsOsUrSAsEsIsOsUrTAsEsIsO",
  "CIRCLED KATAKANA TUrUrWAsEsIsOrYAsOsUjOREAN CHARACTER CHAMKOzJUEUIiLATIN CAPITAL LETTER AzeBzeC",
  "CIRCLED LATIN CAPITAL LETTER DzeEzeFzeGzeHzeIzeJzeKzeLzeMzeNzeOzePzeQzeRzeSzeTzeUzeVzeWzeXzeY",
  "CIRCLED LATIN CAPITAL LETTER ZoSMALL LETTER AzcBzcCzcDzcEzcFzcGzcHzcIzcJzcKzcLzcMzcNzcOzcPzcQ",
  "CIRCLED LATIN SMALL LETTER RzcSzcTzcUzcVzcWzcXzcYzcZjESS-THANiMINUS",
  "CIRCLED MULTIPLICATION SIGN WITH CIRCUMFLEX ACCENTiNUMBER EIGHTEENuY ON BLACK SQUAREqLEVEN",
  "CIRCLED NUMBER FIFTEENtYu ON BLACK SQUAREqORTYu EIGHTvFIVEwOURvNINEvON BLACK SQUARExEvSEVENwIX",
  "CIRCLED NUMBER FORTY THREEwWOrURTEENpNINETEENpSEVENTEENvY ON BLACK SQUAREqIXTEEN",
  "CIRCLED NUMBER SIXTY ON BLACK SQUAREpTENs ON BLACK SQUAREqHIRTEENuYv EIGHTwFIVExOURwNINE",
  "CIRCLED NUMBER THIRTY ON BLACK SQUAREyEwSEVENxIXwTHREExWOqWELVEsNTYv EIGHTwFIVExOURwNINE",
  "CIRCLED NUMBER TWENTY ON BLACK SQUAREyEwSEVENxIXwTHREExWOiOPEN CENTRE EIGHT POINTED STAR",
  "CIRCLED PARALLELjERPENDICULARjLUSjOSTAL MARKiREVERSE SOLIDUSjING OPERATORiSQUAREiTIMESjRIANGLE",
  "CIRCLED TRIANGLE DOWNiVERTICAL BARiWHITE BULLEToSTARjZiXiZERO WITH SLASHeULATION FUNCTION",
  "CIRCUMFLEX ACCENTfS TENTcTYSCAPEj AT DUSKbJK COMPATIBILITY IDEOGRAPH-2F800zh1zh2zh3zh4zh5zh6zh7",
  "CJK COMPATIBILITY IDEOGRAPH-2F808zh9zhAzhBzhCzhDzhEzhFzg10zh1zh2zh3zh4zh5zh6zh7zh8zh9zhAzhBzhC",
  "CJK COMPATIBILITY IDEOGRAPH-2F81DzhEzhFzg20zh1zh2zh3zh4zh5zh6zh7zh8zh9zhAzhBzhCzhDzhEzhFzg30zh1",
  "CJK COMPATIBILITY IDEOGRAPH-2F832zh3zh4zh5zh6zh7zh8zh9zhAzhBzhCzhDzhEzhFzg40zh1zh2zh3zh4zh5zh6",
  "CJK COMPATIBILITY IDEOGRAPH-2F847zh8zh9zhAzhBzhCzhDzhEzhFzg50zh1zh2zh3zh4zh5zh6zh7zh8zh9zhAzhB",
  "CJK COMPATIBILITY IDEOGRAPH-2F85CzhDzhEzhFzg60zh1zh2zh3zh4zh5zh6zh7zh8zh9zhAzhBzhCzhDzhEzhFzg70",
  "CJK COMPATIBILITY IDEOGRAPH-2F871zh2zh3zh4zh5zh6zh7zh8zh9zhAzhBzhCzhDzhEzhFzg80zh1zh2zh3zh4zh5",
  "CJK COMPATIBILITY IDEOGRAPH-2F886zh7zh8zh9zhAzhBzhCzhDzhEzhFzg90zh1zh2zh3zh4zh5zh6zh7zh8zh9zhA",
  "CJK COMPATIBILITY IDEOGRAPH-2F89BzhCzhDzhEzhFzgA0zh1zh2zh3zh4zh5zh6zh7zh8zh9zhAzhBzhCzhDzhEzhF",
  "CJK COMPATIBILITY IDEOGRAPH-2F8B0zh1zh2zh3zh4zh5zh6zh7zh8zh9zhAzhBzhCzhDzhEzhFzgC0zh1zh2zh3zh4",
  "CJK COMPATIBILITY IDEOGRAPH-2F8C5zh6zh7zh8zh9zhAzhBzhCzhDzhEzhFzgD0zh1zh2zh3zh4zh5zh6zh7zh8zh9",
  "CJK COMPATIBILITY IDEOGRAPH-2F8DAzhBzhCzhDzhEzhFzgE0zh1zh2zh3zh4zh5zh6zh7zh8zh9zhAzhBzhCzhDzhE",
  "CJK COMPATIBILITY IDEOGRAPH-2F8EFzgF0zh1zh2zh3zh4zh5zh6zh7zh8zh9zhAzhBzhCzhDzhEzhFzf900zh1zh2",
  "CJK COMPATIBILITY IDEOGRAPH-2F903zh4zh5zh6zh7zh8zh9zhAzhBzhCzhDzhEzhFzg10zh1zh2zh3zh4zh5zh6zh7",
  "CJK COMPATIBILITY IDEOGRAPH-2F918zh9zhAzhBzhCzhDzhEzhFzg20zh1zh2zh3zh4zh5zh6zh7zh8zh9zhAzhBzhC",
  "CJK COMPATIBILITY IDEOGRAPH-2F92DzhEzhFzg30zh1zh2zh3zh4zh5zh6zh7zh8zh9zhAzhBzhCzhDzhEzhFzg40zh1",
  "CJK COMPATIBILITY IDEOGRAPH-2F942zh3zh4zh5zh6zh7zh8zh9zhAzhBzhCzhDzhEzhFzg50zh1zh2zh3zh4zh5zh6",
  "CJK COMPATIBILITY IDEOGRAPH-2F957zh8zh9zhAzhBzhCzhDzhEzhFzg60zh1zh2zh3zh4zh5zh6zh7zh8zh9zhAzhB",
  "CJK COMPATIBILITY IDEOGRAPH-2F96CzhDzhEzhFzg70zh1zh2zh3zh4zh5zh6zh7zh8zh9zhAzhBzhCzhDzhEzhFzg80",
  "CJK COMPATIBILITY IDEOGRAPH-2F981zh2zh3zh4zh5zh6zh7zh8zh9zhAzhBzhCzhDzhEzhFzg90zh1zh2zh3zh4zh5",
  "CJK COMPATIBILITY IDEOGRAPH-2F996zh7zh8zh9zhAzhBzhCzhDzhEzhFzgA0zh1zh2zh3zh4zh5zh6zh7zh8zh9zhA",
  "CJK COMPATIBILITY IDEOGRAPH-2F9ABzhCzhDzhEzhFzgB0zh1zh2zh3zh4zh5zh6zh7zh8zh9zhAzhBzhCzhDzhEzhF",
  "CJK COMPATIBILITY IDEOGRAPH-2F9C0zh1zh2zh3zh4zh5zh6zh7zh8zh9zhAzhBzhCzhDzhEzhFzgD0zh1zh2zh3zh4",
  "CJK COMPATIBILITY IDEOGRAPH-2F9D5zh6zh7zh8zh9zhAzhBzhCzhDzhEzhFzgE0zh1zh2zh3zh4zh5zh6zh7zh8zh9",
  "CJK COMPATIBILITY IDEOGRAPH-2F9EAzhBzhCzhDzhEzhFzgF0zh1zh2zh3zh4zh5zh6zh7zh8zh9zhAzhBzhCzhDzhE",
  "CJK COMPATIBILITY IDEOGRAPH-2F9FFzfA00zh1zh2zh3zh4zh5zh6zh7zh8zh9zhAzhBzhCzhDzhEzhFzg10zh1zh2",
  "CJK COMPATIBILITY IDEOGRAPH-2FA13zh4zh5zh6zh7zh8zh9zhAzhBzhCzhDzdF900zg1zg2zg3zg4zg5zg6zg7zg8",
  "CJK COMPATIBILITY IDEOGRAPH-F909zgAzgBzgCzgDzgEzgFzf10zg1zg2zg3zg4zg5zg6zg7zg8zg9zgAzgBzgCzgD",
  "CJK COMPATIBILITY IDEOGRAPH-F91EzgFzf20zg1zg2zg3zg4zg5zg6zg7zg8zg9zgAzgBzgCzgDzgEzgFzf30zg1zg2",
  "CJK COMPATIBILITY IDEOGRAPH-F933zg4zg5zg6zg7zg8zg9zgAzgBzgCzgDzgEzgFzf40zg1zg2zg3zg4zg5zg6zg7",
  "CJK COMPATIBILITY IDEOGRAPH-F948zg9zgAzgBzgCzgDzgEzgFzf50zg1zg2zg3zg4zg5zg6zg7zg8zg9zgAzgBzgC",
  "CJK COMPATIBILITY IDEOGRAPH-F95DzgEzgFzf60zg1zg2zg3zg4zg5zg6zg7zg8zg9zgAzgBzgCzgDzgEzgFzf70zg1",
  "CJK COMPATIBILITY IDEOGRAPH-F972zg3zg4zg5zg6zg7zg8zg9zgAzgBzgCzgDzgEzgFzf80zg1zg2zg3zg4zg5zg6",
  "CJK COMPATIBILITY IDEOGRAPH-F987zg8zg9zgAzgBzgCzgDzgEzgFzf90zg1zg2zg3zg4zg5zg6zg7zg8zg9zgAzgB",
  "CJK COMPATIBILITY IDEOGRAPH-F99CzgDzgEzgFzfA0zg1zg2zg3zg4zg5zg6zg7zg8zg9zgAzgBzgCzgDzgEzgFzfB0",
  "CJK COMPATIBILITY IDEOGRAPH-F9B1zg2zg3zg4zg5zg6zg7zg8zg9zgAzgBzgCzgDzgEzgFzfC0zg1zg2zg3zg4zg5",
  "CJK COMPATIBILITY IDEOGRAPH-F9C6zg7zg8zg9zgAzgBzgCzgDzgEzgFzfD0zg1zg2zg3zg4zg5zg6zg7zg8zg9zgA",
  "CJK COMPATIBILITY IDEOGRAPH-F9DBzgCzgDzgEzgFzfE0zg1zg2zg3zg4zg5zg6zg7zg8zg9zgAzgBzgCzgDzgEzgF",
  "CJK COMPATIBILITY IDEOGRAPH-F9F0zg1zg2zg3zg4zg5zg6zg7zg8zg9zgAzgBzgCzgDzgEzgFzeA00zg1zg2zg3zg4",
  "CJK COMPATIBILITY IDEOGRAPH-FA05zg6zg7zg8zg9zgAzgBzgCzgDzgEzgFzf10zg1zg2zg3zg4zg5zg6zg7zg8zg9",
  "CJK COMPATIBILITY IDEOGRAPH-FA1AzgBzgCzgDzgEzgFzf20zg1zg2zg3zg4zg5zg6zg7zg8zg9zgAzgBzgCzgDzgE",
  "CJK COMPATIBILITY IDEOGRAPH-FA2Fzf30zg1zg2zg3zg4zg5zg6zg7zg8zg9zgAzgBzgCzgDzgEzgFzf40zg1zg2zg3",
  "CJK COMPATIBILITY IDEOGRAPH-FA44zg5zg6zg7zg8zg9zgAzgBzgCzgDzgEzgFzf50zg1zg2zg3zg4zg5zg6zg7zg8",
  "CJK COMPATIBILITY IDEOGRAPH-FA59zgAzgBzgCzgDzgEzgFzf60zg1zg2zg3zg4zg5zg6zg7zg8zg9zgAzgBzgCzgD",
  "CJK COMPATIBILITY IDEOGRAPH-FA70zg1zg2zg3zg4zg5zg6zg7zg8zg9zgAzgBzgCzgDzgEzgFzf80zg1zg2zg3zg4",
  "CJK COMPATIBILITY IDEOGRAPH-FA85zg6zg7zg8zg9zgAzgBzgCzgDzgEzgFzf90zg1zg2zg3zg4zg5zg6zg7zg8zg9",
  "CJK COMPATIBILITY IDEOGRAPH-FA9AzgBzgCzgDzgEzgFzfA0zg1zg2zg3zg4zg5zg6zg7zg8zg9zgAzgBzgCzgDzgE",
  "CJK COMPATIBILITY IDEOGRAPH-FAAFzfB0zg1zg2zg3zg4zg5zg6zg7zg8zg9zgAzgBzgCzgDzgEzgFzfC0zg1zg2zg3",
  "CJK COMPATIBILITY IDEOGRAPH-FAC4zg5zg6zg7zg8zg9zgAzgBzgCzgDzgEzgFzfD0zg1zg2zg3zg4zg5zg6zg7zg8",
  "CJK COMPATIBILITY IDEOGRAPH-FAD9eRADICAL BAMBOOnLUEnOLT OF CLOTHoNEoXnRUSH ONEsTWO",
  "CJK RADICAL C-SIMPLIFIED BIRDzCARTzDRAGONzEATzbVENzFISHzbLYzbROGzGATEzbOLDzHORSEzLEAFzbONGzSALT",
  "CJK RADICAL C-SIMPLIFIED SEEzbHELLzbILKzbPEECHzTANNED LEATHERzbOOTHzbURTLEzWINDnHOKEnITYoVILIAN",
  "CJK RADICAL CLIFFoOTHESnOWmDEATHnIVINATIONnOGmEAT ONEqTHREErWOnWEnYEmFIREnOOTmGHOSTnRASS ONE",
  "CJK RADICAL GRASS THREEtWOmHANDnEADpRT ONEsTWOnORNmJ-SIMPLIFIED DRAGONzEVENzTOOTHzbURTLEnADE",
  "CJK RADICAL KNIFE ONEsTWOmLAME FOURrONErTHREEsWOnONG ONErTWOmMEAToSHnOONoRTARoTHERoUND ONEsTWO",
  "CJK RADICAL NET FOURqONEqTHREErWOmOLDmPAW ONEqTWOnERSONmRAINoMoPnEPEATmSEALoCOND ONEtTHREEuWO",
  "CJK RADICAL SHEEPnILKoMPLIFIED HALF TREE TRUNKyORNxWALKyHEATxYELLOWnMALL ONEsTWOnNAKEoOUT ONE",
  "CJK RADICAL SNOUT TWOnPIRIT ONEtTWOnUNmTABLEnHREADnIGERnURTLEmWALK ONErTWOoTER ONEsTWOnEST ONE",
  "CJK RADICAL WEST TWOeSTROKE BXGlDlHmGmPnWGmXWGmZnGnTnWoGnZoPoZpGlNlPmDmGmZlQlSmGmPmTmWnGnZmZnWG",
  "CJK STROKE SZZlTmNlWGlXGbLAMSHELL MOBILE PHONEdPPER BOARDfING HANDS SIGNdSSICAL BUILDING",
  "CLEAR SCREEN SYMBOLcINKING BEER MUGSjGLASSESdPBOARDcOCK FACE EIGHT OCLOCKq-THIRTYmLEVEN OCLOCK",
  "CLOCK FACE ELEVEN-THIRTYlFIVE OCLOCKp-THIRTYmOUR OCLOCKp-THIRTYlNINE OCLOCKp-THIRTYlONE OCLOCK",
  "CLOCK FACE ONE-THIRTYlSEVEN OCLOCKq-THIRTYmIX OCLOCKo-THIRTYlTEN OCLOCKo-THIRTYmHREE OCLOCK",
  "CLOCK FACE THREE-THIRTYmWELVE OCLOCKr-THIRTYnO OCLOCKo-THIRTYfWISE CLOSED CIRCLE ARROW",
  "CLOCKWISE CONTOUR INTEGRALkDOWNWARDS AND UPWARDS OPEN CIRCLE ARROWSkGAPPED CIRCLE ARROW",
  "CLOCKWISE INTEGRALkOPEN CIRCLE ARROWkRIGHT AND LEFT SEMICIRCLE ARROWS",
  "CLOCKWISE RIGHTWARDS AND LEFTWARDS OPEN CIRCLE ARROWSzzd WITH CIRCLED ONE OVERLAY",
  "CLOCKWISE TOP SEMICIRCLE ARROWlRIANGLE-HEADED OPEN CIRCLE ARROWdSE UPfD BOOK",
  "CLOSED INTERSECTION WITH SERIFShLOCK WITH KEYhMAILBOX WITH LOWERED FLAGuRAISED FLAGhSUBSET",
  "CLOSED SUBSET OR EQUAL TOjPERSETp OR EQUAL TOhUMBRELLAiNION WITH SERIFSy AND SMASH PRODUCTdUD",
  "CLOUD WITH LIGHTNINGlRAINlSNOWlTORNADOdWN FACEbOATcCKROACHeTAIL GLASSdONUTcFFINcIN",
  "COLLISION SYMBOLdONf EQUALSgSIGNcMBINING ACUTE ACCENTw BELOWqTONE MARKp-GRAVE-ACUTEqMACRON",
  "COMBINING ALMOST EQUAL TO ABOVEzbBELOWlNNUITY SYMBOLmTICLOCKWISE ARROW ABOVEyRING OVERLAY",
  "COMBINING ASTERISK ABOVEtBELOWkBINDU BELOWlREVEp BELOWp-MACRONmIDGE ABOVErBELOWkCANDRABINDUmRON",
  "COMBINING CARON BELOWlEDILLAlIRCUMFLEX ACCENTzc BELOWlLOCKWISE ARROW ABOVEuRING OVERLAY",
  "COMBINING COMMA ABOVEv RIGHTqBELOWmNJOINING MACRONzc BELOWlYRILLIC DASIA PNEUMATA",
  "COMBINING CYRILLIC HUNDRED MILLIONS SIGNzcTHOUSANDS SIGNtKAVYKAtLETTER AzbBEzcIG YUSzbCHEzbDE",
  "COMBINING CYRILLIC LETTER DJERVzbEFzcLzcMzcNzcRzcSzd-TEzbFITAzbGHEzbHAzdRD SIGNzbIzcE",
  "COMBINING CYRILLIC LETTER IOTIFIED AzkBIG YUSzkEzbKAzbLITTLE YUSzbMONOGRAPH UKzbOzcMEGAzbPE",
  "COMBINING CYRILLIC LETTER SHAzdCHAzcOFT SIGNzbTEzcSEzbUzcKRAINIAN IEzbVEzbYATzcERUzcIzcUzbZE",
  "COMBINING CYRILLIC LETTER ZHEtMILLIONS SIGNtPALATALIZATIONvYEROKuOKRYTIEuSILI PNEUMATA",
  "COMBINING CYRILLIC TEN MILLIONS SIGNuHOUSAND MILLIONS SIGNuITLOy LEFT HALFzRIGHT HALFtVZMET",
  "COMBINING DELETION MARKmVANAGARI DIGIT EIGHTzcFIVEzdOURzcNINEzcONEzcSEVENzdIXzcTHREEzdWOzcZERO",
  "COMBINING DEVANAGARI LETTER AzdKAzdNAzdPAzdRAzdUzdVIvSIGN AVAGRAHAlIAERESISt BELOWt-RING",
  "COMBINING DOT ABOVEt LEFTuRIGHToBELOWt LEFTnTED ACUTE ACCENTrGRAVE ACCENTmUBLE ACUTE ACCENT",
  "COMBINING DOUBLE BREVEw BELOWrCIRCUMFLEX ABOVErGRAVE ACCENTrINVERTED BREVEzg BELOWrLOW LINE",
  "COMBINING DOUBLE MACRONx BELOWrOPEN MARK BELOWsVERLINErPARENTHESES ABOVEsLUS SIGN ABOVEzcBELOW",
  "COMBINING DOUBLE RIGHTWARDS ARROW BELOWtNG BELOWrTILDEw LEFT HALFxRIGHT HALF",
  "COMBINING DOUBLE VERTICAL LINE ABOVEzgBELOWzbSTROKE OVERLAYqD CIRCUMFLEX ACCENTmWN TACK BELOW",
  "COMBINING DOWNWARDS ARROWkENCLOSING CIRCLEzb BACKSLASHuDIAMONDuKEYCAPuSCREENvQUARE",
  "COMBINING ENCLOSING UPWARD POINTING TRIANGLElQUALS SIGN BELOWkFERMATAlOUR DOTS ABOVE",
  "COMBINING GLAGOLITIC LETTER AZUzdBIG YUSzeUKYzdCHRIVIzdDJERVIzeOBROzdFITAzeRITUzdGLAGOLIzdHERU",
  "COMBINING GLAGOLITIC LETTER IzeNITIAL IZHEzeOTATED BIG YUSzlSMALL YUSzeZHEzdKAKOzdLJUDIJE",
  "COMBINING GLAGOLITIC LETTER MYSLITEzdNASHIzdONUzdPOKOJIzdRITSIzdSHAzfTAzeLOVOzeMALL YUSzdTSI",
  "COMBINING GLAGOLITIC LETTER TVRIDOzdUKUzdVEDEzdYATIzeERIzgUzfSTUzeOzeUzdZEMLJAzeHIVETE",
  "COMBINING GRANTHA DIGIT FIVEzOURyONEySIXyTHREEzWOyZEROsLETTER AzKAzNAzPAzVInPHEME JOINER",
  "COMBINING GRAVE ACCENTw BELOWqTONE MARKp-ACUTE-GRAVEqMACRONmEEK DIALYTIKA TONOSqKORONIS",
  "COMBINING GREEK MUSICAL PENTASEMEyTETRASEMEzRISEMEqPERISPOMENIqYPOGEGRAMMENIkHOMOTHETIC ABOVE",
  "COMBINING HOOK ABOVEmRNkINFINITYmVERTED BREVEy BELOWvIDGE BELOWtDOUBLE ARCH ABOVEzgBELOW",
  "COMBINING IS BELOWkKATAKANA-HIRAGANA SEMI-VOICED SOUND MARKzdVOICED SOUND MARKmVYKA ABOVE LEFT",
  "COMBINING KAVYKA ABOVE RIGHTkLATIN LETTER SMALL CAPITAL GzmLzmMzmNzmRqSMALL LETTER A",
  "COMBINING LATIN SMALL LETTER A WITH DIAERESISzfEzfLPHAzfOzfVzeBzfETAzeCzf CEDILLAzeDzeEzfSHzfTH",
  "COMBINING LATIN SMALL LETTER FzfLATTENED OPEN A ABOVEzeGzeHzeIzfNSULAR DzmGzmRzmTzeKzeL",
  "COMBINING LATIN SMALL LETTER L WITH DOUBLE MIDDLE TILDEzfONG SzeMzeNzeOzf WITH DIAERESIS",
  "COMBINING LATIN SMALL LETTER O WITH LIGHT CENTRALIZATION STROKEzePzeRzf BELOWzgROTUNDAzeSzfCHWA",
  "COMBINING LATIN SMALL LETTER TzfURNED W BELOWzeUzf WITH DIAERESISzlLIGHT CENTRALIZATION STROKE",
  "COMBINING LATIN SMALL LETTER VzeWzf BELOWzeXzeZlEFT ANGLE ABOVEvBELOWqRROW ABOVEvBELOW",
  "COMBINING LEFT ARROWHEAD ABOVEzBELOWpHALF RING ABOVEzBELOWrRPOON ABOVEpPARENTHESIS ABOVE LEFT",
  "COMBINING LEFT PARENTHESIS BELOW LEFTpRIGHT ARROW ABOVEzcBELOWpTACK BELOWoWARDS ARROW OVERLAY",
  "COMBINING LEFTWARDS HARPOON WITH BARB DOWNWARDSlIGATURE LEFT HALFzd BELOWtRIGHT HALFze BELOW",
  "COMBINING LIGHT CENTRALIZATION STROKE BELOWlONG DOUBLE SOLIDUS OVERLAYpSOLIDUS OVERLAY",
  "COMBINING LONG STROKE OVERLAYpVERTICAL LINE OVERLAYmW LINEkMACRONq BELOWrLEFT HALFzb BELOW",
  "COMBINING MACRON RIGHT HALFzc BELOWq-ACUTErBREVErGRAVElINUS SIGN BELOWkNOT TILDE ABOVE",
  "COMBINING NUMBER SIGN ABOVEkOGONEKq ABOVElLD PERMIC LETTER ANzdDOIzdNENOEzdSIIzdZATA",
  "COMBINING OPEN MARK BELOWlVERLINEkPALATALIZED HOOK BELOWmRENTHESES ABOVEwBELOWwOVERLAY",
  "COMBINING PLUS SIGN ABOVEuBELOWkRETROFLEX HOOK BELOWmVERSE SOLIDUS OVERLAYrD COMMA ABOVE",
  "COMBINING RIGHT ARROW ABOVEwBELOWvHEAD ABOVEzcND DOWN ARROWHEAD BELOWzfUP ARROWHEAD BELOW",
  "COMBINING RIGHT ARROWHEAD BELOWqHALF RING ABOVEzbBELOWsRPOON ABOVEqPARENTHESIS ABOVE RIGHT",
  "COMBINING RIGHT PARENTHESIS BELOW RIGHTqTACK BELOWpWARDS HARPOON WITH BARB DOWNWARDSmNG ABOVE",
  "COMBINING RING BELOWpOVERLAYkSEAGULL BELOWlHORT SOLIDUS OVERLAYrTROKE OVERLAY",
  "COMBINING SHORT VERTICAL LINE OVERLAYlNAKE BELOWlQUARE BELOWsRACKETS ABOVE",
  "COMBINING STRONG CENTRALIZATION STROKE BELOWlUSPENSION MARKkTHREE DOTS ABOVElILDEp BELOW",
  "COMBINING TILDE LEFT HALF BELOWqOVERLAYqRIGHT HALF BELOWlRIPLE ACUTE ACCENTrDOTrUNDERDOT",
  "COMBINING TURNED COMMA ABOVEkUP TACK ABOVEsBELOWmWARDS ARROW BELOWlR ABOVElS ABOVE",
  "COMBINING VERTICAL LINE ABOVEyBELOWtTILDEkWIDE BRIDGE ABOVEpINVERTED BRIDGE BELOW",
  "COMBINING WIGGLY LINE BELOWkX ABOVEmBELOWl-X BELOWkZIGZAG ABOVErBELOWdETdMAeERCIAL AT",
  "COMMERCIAL MINUS SIGNdPASSeLEMENTeOSITION SYMBOLeRESSIONcNFETTI BALLeOUNDED FACEeUSED FACE",
  "CONGRUENT WITH DOT ABOVEdICAL TAPERdJUNCTIONdSTRUCTION SIGNnWORKERdTAINS AS MEMBER",
  "CONTAINS AS NORMAL SUBGROUPzc OR EQUAL TOjWITH LONG HORIZONTAL STROKEoOVERBAR",
  "CONTAINS WITH VERTICAL BAR AT END OF HORIZONTAL STROKEeINUOUS UNDERLINE SYMBOLeOUR INTEGRAL",
  "CONTROL KNOBSiSEQUENCE INTRODUCERdVENIENCE STOREcOKED RICEeIEfNG",
  "COPTIC CAPITAL LETTER AKHMIMIC KHEIxLFAwBOHAIRIC KHEIwCROSSED SHEIyYPTOGRAMMIC EIEzlGANGIAzlNI",
  "COPTIC CAPITAL LETTER CRYPTOGRAMMIC SHEIwDALDAxEIxIALECT-P ALEFzhHORIzhKAPAzhNIwEIEwFEIxIwGAMMA",
  "COPTIC CAPITAL LETTER GANGIAwHATExORIwIAUDAwKAPAxHEIyIxSIwL-SHAPED HAxAULAwMIwNIwO",
  "COPTIC CAPITAL LETTER OLD COPTIC AINziDJAziESHziGANGIAziHAzkTzjEIzjORIziOOUziSHEIzkIMA",
  "COPTIC CAPITAL LETTER OLD NUBIAN NGIzjYIziSHIMAziWAUxOUwPIxSIwROwSAMPIxHEIyIMAxIMAxOUwTAUxHETHE",
  "COPTIC CAPITAL LETTER UAwVIDAwZATAiOMBINING NI ABOVErSPIRITUS ASPERzbLENIShEPACT DIGIT EIGHT",
  "COPTIC EPACT DIGIT FIVEuOURtNINEtONEtSEVENuIXtTHREEuWOnNUMBER EIGHT HUNDREDzYuFIFTYwVE HUNDRED",
  "COPTIC EPACT NUMBER FORTYwUR HUNDREDuNINE HUNDREDyTYuONE HUNDREDuSEVEN HUNDREDzTYvIX HUNDREDxTY",
  "COPTIC EPACT NUMBER TENvHIRTYwREE HUNDREDvWENTYwO HUNDREDnTHOUSANDS MARKhFRACTION ONE HALF",
  "COPTIC FULL STOPhMORPHOLOGICAL DIVIDERhOLD NUBIAN DIRECT QUESTION MARKsFULL STOP",
  "COPTIC OLD NUBIAN INDIRECT QUESTION MARKsVERSE DIVIDERhSMALL LETTER AKHMIMIC KHEIvLFA",
  "COPTIC SMALL LETTER BOHAIRIC KHEIuCROSSED SHEIwYPTOGRAMMIC EIEzjGANGIAzjNIzjSHEIuDALDAvEI",
  "COPTIC SMALL LETTER DIALECT-P ALEFzfHORIzfKAPAzfNIuEIEuFEIvIuGAMMAwNGIAuHATEvORIuIAUDAuKAPAvHEI",
  "COPTIC SMALL LETTER KHIvSIuL-SHAPED HAvAULAuMIuNIuOvLD COPTIC AINzgDJAzgESHzgGANGIAzgHAziTzhEI",
  "COPTIC SMALL LETTER OLD COPTIC HORIzgOOUzgSHEIziIMAyNUBIAN NGIzhYIzgSHIMAzgWAUvOUuPIvSIuRO",
  "COPTIC SMALL LETTER SAMPIvHEIwIMAvIMAvOUuTAUvHETHEuUAuVIDAuZATAiYMBOL KAIpHI ROoMI ROoPI RO",
  "COPTIC SYMBOL SHIMA SIMApTAUROSoTAU ROdYLEFT SYMBOLeRIGHT SIGNcRALdNISH VERSE DIVIDER",
  "CORRESPONDS TOcUCH AND LAMPdNTERBOREhSINKfING ROD TENS DIGIT EIGHTyFIVEzOURyNINEyONEySEVENzIX",
  "COUNTING ROD TENS DIGIT THREEzWOnUNIT DIGIT EIGHTyFIVEzOURyNINEyONEySEVENzIXyTHREEzWO",
  "COUPLE WITH HEARTcWd FACEbRcABcEDIT CARDdSCENT MOONcICKETh BAT AND BALLcOCODILEdISSANTdSS MARK",
  "CROSS OF JERUSALEMjLORRAINEgPATTY WITH LEFT CROSSBARrRIGHT CROSSBARhOMMEE",
  "CROSS POMMEE WITH HALF-CIRCLE BELOWfED FLAGSiNEGATIVE SQUARED LATIN CAPITAL LETTER PiSWORDS",
  "CROSSING LANESdWNcUTCHdZEIRO SIGNcYING CAT FACEhFACEdSTAL BALLbSIbUBE ROOTcCUMBER",
  "CUNEIFORM NUMERIC SIGN EIGHT ASHzeDISHzeGESH2zeSHAR2zeUzf VARIANT FORMzeVARIANT FORM USSUzv3",
  "CUNEIFORM NUMERIC SIGN ELAMITE FIFTYzhORTYzgONE THIRDzgTWO THIRDSxFIVE ASHzg TENUzdBAN2",
  "CUNEIFORM NUMERIC SIGN FIVE BAN2 VARIANT FORMzeURUzdDISHzdGESH2zhUzdSHAR2zhUzeIXTHS DISHzdU",
  "CUNEIFORM NUMERIC SIGN FIVE U VARIANT FORMyOUR ASHzg TENUzdBAN2zh VARIANT FORMzeURUzdDISH",
  "CUNEIFORM NUMERIC SIGN FOUR GESH2zhUzdSHAR2zhUzdUze VARIANT FORMzdVARIANT FORM LIMMUzv AzwBzv4",
  "CUNEIFORM NUMERIC SIGN NIGIDAESHzeMINzNE ASHzdDISHzdGESH2zdSHAR2zdUze VARIANT FORM",
  "CUNEIFORM NUMERIC SIGN NINE VARIANT FORM ILIMMUzw Azw3zw4xOLD ASSYRIAN ONE QUARTERzpSIXTH",
  "CUNEIFORM NUMERIC SIGN ONE BAN2zdURUzcEIGHTH ASHzdSHE3zcGESH2zgUzcHALF GURzcQUARTER ASHzkGUR",
  "CUNEIFORM NUMERIC SIGN ONE SHARUzcTHIRD DISHziVARIANT FORM AxSEVEN ASHzeDISHzeGESH2zeSHAR2zeU",
  "CUNEIFORM NUMERIC SIGN SEVEN U VARIANT FORMzeVARIANT FORM IMIN AzwBzv3yHAR2 TIMES GAL PLUS DISH",
  "CUNEIFORM NUMERIC SIGN SHAR2 TIMES GAL PLUS MINyIX ASHzf TENUzcDISHzcGESH2zcSHAR2zcU",
  "CUNEIFORM NUMERIC SIGN SIX U VARIANT FORMzcVARIANT FORM ASH9xTHREE ASHzh TENUzeBAN2zfURU",
  "CUNEIFORM NUMERIC SIGN THREE BURU VARIANT FORMzeDISHzeGESH2ziUzeSHAR2zj VARIANT FORMziU",
  "CUNEIFORM NUMERIC SIGN THREE SHARU VARIANT FORMzeVARIANT FORM ESH16zu21yWO ASHzf TENUzcBAN2",
  "CUNEIFORM NUMERIC SIGN TWO BURUzcESHE3zcGESH2zgUzcSHAR2zgUzcTHIRDS DISHzjVARIANT FORM A",
  "CUNEIFORM PUNCTUATION SIGN DIAGONAL COLONzlQUADCOLONzlTRICOLONzcOLD ASSYRIAN WORD DIVIDER",
  "CUNEIFORM PUNCTUATION SIGN VERTICAL COLONkSIGN Aq TIMES AxBADxGAN2 TENUxHAxIGIxLAGAR GUNUxMUSH",
  "CUNEIFORM SIGN A TIMES SAGq2qBr GUNUsTIMES ASH2yDUN3 GUNUyGALzbN2 TENUyHAyIGI GUNUzMINyLAGAB",
  "CUNEIFORM SIGN AB TIMES NUNzc TENUySHESHzbU2yU PLUS U PLUS Ur2s TIMES AzBALAGzGAN2 TENU",
  "CUNEIFORM SIGN AB2 TIMES ME PLUS ENzSHA3zTAK4qDr TIMES ESH2qKr TIMES ERIN2ySHITA PLUS GISHqL",
  "CUNEIFORM SIGN AL TIMES ALyDIM2yGISHyHAyKAD3zIySHEyUSHrANrEPHqMARt TIMES KUGzbSHEqNr OVER AN",
  "CUNEIFORM SIGN AN PLUS NAGA OPPOSING AN PLUS NAGAzdSQUAREDsTHREE TIMESrSHEqPINqRADt TIMES KUR",
  "CUNEIFORM SIGN ARKABqSAL2rHs KABA TENUtOVER ASH OVER ASHzl CROSSING ASH OVER ASH OVER ASH",
  "CUNEIFORM SIGN ASH OVER ASH TUG2 OVER TUG2 TUG2 OVER TUG2 PAPtZIDA TENUs2sGABpBArD",
  "CUNEIFORM SIGN BAD TIMES DISH TENUrG3rHAR2v TIMES AB2zdNIzdZArLs OVER BALsAGrRsA2qIr TIMES A",
  "CUNEIFORM SIGN BI TIMES GARyIGI GUNUqUr CROSSING BUsOVER BU ABzbTIMES NA2zbUNrLUGu OVER BULUGrR",
  "CUNEIFORM SIGN BUR2pDAr TIMES TAK4rGs KISIM5 TIMES A PLUS MASHziMARzhBALAGziIzhGAzj PLUS MASH",
  "CUNEIFORM SIGN DAG KISIM5 TIMES GIzjR2ziUDzhHAzhIRzj PLUS LUzhKAKzhLAziUzj PLUS MASH2zjMzhNE",
  "CUNEIFORM SIGN DAG KISIM5 TIMES PAP PLUS PAPzhSIzhTAK4zhU2 PLUS GIR2zpMASHziSHtTIMES KURs3rMrR",
  "CUNEIFORM SIGN DARA3t4qIrBrMs TIMES IGIzSHEzU U Us2t TIMES UDrNs KASKAL U GUNU DISHrSH",
  "CUNEIFORM SIGN DISH PLUS SHUqUr GUNUsOVER DUsSHESHIGrBs TIMES ESH2zSHEs2rGs TIMES ANSHEzbSH",
  "CUNEIFORM SIGN DUG TIMES ASH AT LEFTzDINzbUNzERIN2zGAzbIzcR2 GUNUzcSHzHAzbIzIGI GUNUzKASKALzbUR",
  "CUNEIFORM SIGN DUG TIMES KUSHU2zg PLUS KASKALzLAK-020zcMzd TIMES KURzbUH PLUS GISHzMASHzbESzbI",
  "CUNEIFORM SIGN DUG TIMES NIzPIzSHEzbI GUNUsUDrHrNs3t GUNUy GUNUs4rR2pEq OVER E NUN OVER NUN",
  "CUNEIFORM SIGN E TIMES PAPq2r TIMES A PLUS HA PLUS DAyGARyKURyMIyPAPySALzHEyUqDINqGIRqLqN",
  "CUNEIFORM SIGN EN CROSSING ENsOPPOSING ENsSQUAREDsTIMES GAN2zd TENUyMEqRENrIN2u XqSH2",
  "CUNEIFORM SIGN ESH2 CROSSING ESH2qZENt SHESHIG TIMES ASHzjHIzjIGI GUNUzjLAzlLzjMEzlSzjSU",
  "CUNEIFORM SIGN EZEN TIMES Azc PLUS LALzl TIMES LALzcNzbBADzbDUN3 GUNUzk GUNUzbGUDzbHAzd GUNU",
  "CUNEIFORM SIGN EZEN TIMES IGI GUNUzbKASKALzh SQUAREDzcU3zbLAzdL TIMES LALzcIzcUzbSHEzcUzbU2zcD",
  "CUNEIFORM SIGN GAr GUNUr2s OVER GA2tTIMES A PLUS DA PLUS HAzhHAzhIGIzbB2 TENU PLUS TABzbN",
  "CUNEIFORM SIGN GA2 TIMES AN PLUS KAK PLUS AzbSHzd2ze PLUS GALzBADzcHAR2zcR PLUS RAzbUR",
  "CUNEIFORM SIGN GA2 TIMES BUR PLUS RAzDAzbIzcM GUNUzeTIMES SHEzbUBzcG TIMES IGI GUNUzkKASKALzEL",
  "CUNEIFORM SIGN GA2 TIMES EL PLUS LAzbNzc TIMES GAN2 TENUzbRENzGAzcN2 TENUzcRzd PLUS DIzjNEzbI",
  "CUNEIFORM SIGN GA2 TIMES GI4zd PLUS AzcR2 PLUS SUzHA PLUS AziLU PLUS ESH2zcLzd PLUS LA",
  "CUNEIFORM SIGN GA2 TIMES HI PLUS LIzbUB2zIGI GUNUzbSH PLUS HU PLUS ASHzKAKzcSKALzbIDzd PLUS LAL",
  "CUNEIFORM SIGN GA2 TIMES KU3 PLUS ANzcSHU2 PLUS KASKALzLAzcMzd TIMES KURzbUHzME PLUS ENzbIzbUSH",
  "CUNEIFORM SIGN GA2 TIMES NEzc PLUS E2ziGIzbUNzd OVER NUNzPAzSALzcRzbHEzd PLUS TURzcIDzdMzbUM",
  "CUNEIFORM SIGN GA2 TIMES TAK4zUzbDzc PLUS DUzZIZ2rBAt CROSSING GABAuROTATED NINETY DEGREESrD",
  "CUNEIFORM SIGN GAD OVER GAD GAR OVER GARrLs GAD OVER GAD GAR OVER GARsAMrMrNs2t CROSSING GAN2",
  "CUNEIFORM SIGN GAN2 OVER GAN2uTENUrRs3rSHANqE22rSHTINw TIMES KURzeUqIr CROSSING GIsTIMES EyUr4",
  "CUNEIFORM SIGN GI4 CROSSING GI4tOVER GI4rDIMrGrR2t GUNUs3t TIMES A PLUS IGIzbGAN2 TENUzbIGI",
  "CUNEIFORM SIGN GIR3 TIMES LU PLUS IGIzbPArSALsHt CROSSING GISHuTENUvIMES BAD",
  "CUNEIFORM SIGN GISH TIMES GISH CROSSING GISHzbTAK4qUr CROSSING GUr2s GUNUtTIMES IGI GUNUzKAK",
  "CUNEIFORM SIGN GU2 TIMES KAK TIMES IGI GUNUzNUNzSAL PLUS TUG2rDs OVER GUD LUGAL",
  "CUNEIFORM SIGN GUD PLUS GISH TIMES TAK4tTIMES A PLUS KURzKURrLrMs TIMES SHErRs7sUNtSHpHAr GUNU",
  "CUNEIFORM SIGN HA TENUw GUNUrLqIr TIMES ASHzc OVER HI TIMES ASHzc2yBADyDISHyGADyKINyNUNySHEyUqU",
  "CUNEIFORM SIGN HUB2t TIMES ANzbHALzbKASKALzbLISHzbUDrL2rSHpIq AqBqDIMt OVER IDIM BURzfSQUAREDqG",
  "CUNEIFORM SIGN IGIs DIBtGUNUtOVER IGI SHIR OVER SHIR UD OVER UDtRIqLr TIMES GAN2 TENUr2qM",
  "CUNEIFORM SIGN IM CROSSING IMsOPPOSING IMsSQUAREDsTIMES TAK4rINqNqRqSHpKAr TIMES AzDzb PLUS KU3",
  "CUNEIFORM SIGN KA TIMES ANSHEzSH2zc3yBADzbLAGzbRzIzUyERIN2zSH2yGAzbLzbN2 TENUzbR",
  "CUNEIFORM SIGN KA TIMES GAR PLUS SHA3 PLUS AzIzbR2zbSHzd CROSSING GISHzePLUS SARzUzbDzbR7",
  "CUNEIFORM SIGN KA TIMES HI TIMES ASH2yIGIzMyKAzbKzIzbDyLIzUzbMyMEzb PLUS DUzhGIzhTEzI",
  "CUNEIFORM SIGN KA TIMES MI PLUS NUNUZyNEzUNyPAzIyRUySAzbRzHAzbEzbIDzbUzcLzIGzUHURyTARzUyUz U U",
  "CUNEIFORM SIGN KA TIMES U2zDzMUM TIMES PAzRzb2zSHyZIr2s CROSSING KA2rBrD2s3s4s5t OVER KAD5rK",
  "CUNEIFORM SIGN KAK TIMES IGI GUNUrLs CROSSING KALtTIMES BADrM2s4rP ELAMITErSKAL",
  "CUNEIFORM SIGN KASKAL LAGAB TIMES U OVER LAGAB TIMES U",
  "CUNEIFORM SIGN KASKAL OVER KASKAL LAGAB TIMES U OVER LAGAB TIMES UqESH2qIr TIMES BADyUzDrDrN",
  "CUNEIFORM SIGN KISALsHsIM5v OVER KISIM5qUr OVER HI TIMES ASH2 KU OVER HI TIMES ASH2r3r4",
  "CUNEIFORM SIGN KU4 VARIANT FORMr7rLs GUNUrNrRs OPPOSING KURrSHU2qWU318pLArGABu SQUAREDvTIMES A",
  "CUNEIFORM SIGN LAGAB TIMES A PLUS DA PLUS HAzjGARzjLALzdLzdNzdSH ZIDA TENUzcBADzdIzcDARzcENzcGA",
  "CUNEIFORM SIGN LAGAB TIMES GARzdIzdUDzf PLUS GUDzcHAzeLzdI TIMES NUNzcIGI GUNUzdMze PLUS HAzkLU",
  "CUNEIFORM SIGN LAGAB TIMES KIzeNzdU3zeLzf PLUS HI PLUS AzcLAGABzdISHzdUzeLzcMEze PLUS ENzdUSH",
  "CUNEIFORM SIGN LAGAB TIMES NEzcSHE PLUS SUMzeITA PLUS GISH PLUS ERIN2zsTENUzeU2zg PLUS SHU2zdUM",
  "CUNEIFORM SIGN LAGAB TIMES TAGzeK4zdE PLUS A PLUS SU PLUS NAzcUzd PLUS AzjU PLUS Uzd2 PLUS ASH",
  "CUNEIFORM SIGN LAGAB TIMES UDzdSHzcZU OVER ZUtRu GUNUz OVER LAGAR GUNU SHEvTIMES SHEzf PLUS SUM",
  "CUNEIFORM SIGN LAHSHUrK-003u21v5u30u50v1u62u79 OVER LAK-079 GUNUu80v1 OVER LAK-081u92t130u42",
  "CUNEIFORM SIGN LAK-210v9u20v5v8u38u65v6t343v7v8u83v4u90t441v9w TIMES GUzeIGIzePAP PLUS LU3",
  "CUNEIFORM SIGN LAK-449 TIMES PAP PLUS PAP PLUS LU3zeU2 PLUS BAu50v7u70u83u90v2v3v5t550t608u17",
  "CUNEIFORM SIGN LAK-617 TIMES ASHzeBADzeDUN3 GUNU GUNUzeKU3zeLAzeTARzfEzeU2zfDzfRUDAu36u48",
  "CUNEIFORM SIGN LAK-648 TIMES DUBzeGAzeIGIzh GUNUzeNIzePAP PLUS PAP PLUS LU3zeSHESH PLUS KIzeUD",
  "CUNEIFORM SIGN LAK-648 TIMES URUDAt724u49rLs TIMES LALrMs TIMES KURzd PLUS RUqIrLrMMU2rSHqU",
  "CUNEIFORM SIGN LU TIMES BADr2s CROSSING LU2tGUNU TIMES ASHtOPPOSING LU2tSHESHIGzb TIMES BAD",
  "CUNEIFORM SIGN LU2 SQUAREDtTENUuIMES ALzBADzDISHzESH2ze PLUS LALzfTENUzGAN2 TENUzHAL",
  "CUNEIFORM SIGN LU2 TIMES HI TIMES BADzIMzKAD2zd3ze PLUS ASHzbIzLA PLUS ASHzcGABzME PLUS ENzNE",
  "CUNEIFORM SIGN LU2 TIMES NUzPAPzd PLUS PAP PLUS LU3zSHUzbI PLUS ASHzcK2 PLUS BUzTAK4zbUG2r3rGAL",
  "CUNEIFORM SIGN LUGAL OPPOSING LUGALwVER LUGALvSHESHIGrHrLrMs OVER LUMzc GAR OVER GARpMAr GUNU",
  "CUNEIFORM SIGN MA TIMES TAK4r2rHrRrSHt2qErSsHqIr PLUS ZA7rNqUr OVER MUrGs GUNUrNSUBrRGU2rSH",
  "CUNEIFORM SIGN MUSH CROSSING MUSHuOVER MUSHze TIMES A PLUS NAzlGAzlKAKuTIMES AzbKURzbZAt3u GUNU",
  "CUNEIFORM SIGN MUSH3 TIMES Azd PLUS DIzcDIzcZApNAr2r4rGAt INVERTEDuOPPOSING NAGAuTIMES SHU TENU",
  "CUNEIFORM SIGN NAGARrMs NUTILLUs2qEr SHESHIGsTIMES AyUDqIr TIMES Er2rMs TIMES GAN2 TENU",
  "CUNEIFORM SIGN NIM TIMES GAR PLUS GAN2 TENUrNs9sDA2v TIMES ANzeSHzg PLUS ASHzdBALzdDIM GUNUzdGI",
  "CUNEIFORM SIGN NINDA2 TIMES GISHzeUDzfLzdHIzdKESH2zdLAK-050zdMASHzeE PLUS GAN2 TENUzdNEzeUN",
  "CUNEIFORM SIGN NINDA2 TIMES PAP PLUS PAPzdSHEzg PLUS A ANznSHzp PLUS ASHzdUze PLUS U",
  "CUNEIFORM SIGN NINDA2 TIMES U2 PLUS ASHzeRUDAzeSHrSAGqUr11t OVER NU11 BUR OVER BUR",
  "CUNEIFORM SIGN NU11 ROTATED NINETY DEGREESuTENUrNs CROSSING NUNzg LAGAR OVER LAGAR",
  "CUNEIFORM SIGN NUN LAGAR TIMES GARzgMASHzgSALzj OVER NUN LAGAR TIMES SALzgUSHtOVER NUNtTENUsUZ",
  "CUNEIFORM SIGN NUNUZ AB2 TIMES ASHGABzgBIzgDUGzgGUDzgIGI GUNUzgKAD3zgLAzgNEzgSILA3zgU2",
  "CUNEIFORM SIGN NUNUZ KISIM5 TIMES BIzl UpPArDrNrPqESH2u ASTERISKqIr CROSSING PIsTIMES AzByBIzU",
  "CUNEIFORM SIGN PI TIMES EyIzByUz2rR2sIGu OPPOSING PIRIGvTIMES KALzcUDzcZApRArBqIqUpSArGs GUNU",
  "CUNEIFORM SIGN SAG GUNU TIMES HAtNUTILLUtOVER SAGtTIMES AzDUzcBzENzHAzIGI GUNUzKAKzbURzLUMzMI",
  "CUNEIFORM SIGN SAG TIMES NUNzSALzbHE AT LEFTzcIDzTABzcK4zU2zbBzbMzbRzbSHrLs LAGAB TIMES ASH2",
  "CUNEIFORM SIGN SANGA2rRqHAs3t TIMES AzbBADzbGISHzbNEzbSHU2zbTURzbUzc PLUS As6t TENUsB6sR2rEs HU",
  "CUNEIFORM SIGN SHE OVER SHEzc GAD OVER GAD GAR OVER GARzdTAB OVER TAB GAR OVER GARtPLUS HUB2",
  "CUNEIFORM SIGN SHE PLUS NAM2ySARsG9sNsSHu2uLAMrIDt TIMES AzbIMsMt TIMES AzbBALzcULUGzbDINzbGAR",
  "CUNEIFORM SIGN SHIM TIMES IGIze GUNUzbKUSHU2zbLULzbMUGzbSALsNIGsRt OVER SHIR BUR OVER BURuTENU",
  "CUNEIFORM SIGN SHITArUs OVER INVERTED SHUs2t PLUS DUG TIMES NIzE2 TIMES ANsBURqIr GUNU",
  "CUNEIFORM SIGN SI TIMES TAK4rGs4t OVER SIG4 SHU2rK2rLA3qUr OVER SUrDs2rHURrMsASHrRs9pTA",
  "CUNEIFORM SIGN TA ASTERISKsGUNUsTIMES HIyMIrBs OVER TAB NI OVER NI DISH OVER DISHtSQUAREDrG",
  "CUNEIFORM SIGN TAG TIMES BIzGUDzSHEzcUzTUG2zUDrK4t PLUS SAGrRqEr GUNUqIr TENUr2rLrRs OVER TIR",
  "CUNEIFORM SIGN TIR OVER TIR GAD OVER GAD GAR OVER GARtTIMES TAK4qUrG2rKrMs TIMES GAN2 TENU",
  "CUNEIFORM SIGN TUM TIMES THREE DISHrRs OVER TUR ZA OVER ZApUq GUD",
  "CUNEIFORM SIGN U OVER U PA OVER PA GAR OVER GARySUR OVER SURyU REVERSED OVER U REVERSEDrUs Uq2",
  "CUNEIFORM SIGN UBqDr GUNUsKUSHU2sSHESHIGz TIMES BADsTIMES BADyMIyU PLUS U PLUS Uzo GUNUrUGqM",
  "CUNEIFORM SIGN UM TIMES LAGAByMEzb PLUS DAySHA3yUrBINrUMt TIMES KASKALzbPAqNr GUNUqR",
  "CUNEIFORM SIGN UR CROSSING URsSHESHIGr2s INVERTEDtTIMES A PLUS HAzhNAzbLzHAzNUNzU2zc PLUS ASH",
  "CUNEIFORM SIGN UR2 TIMES U2 PLUS BIzbDr4rIs3rUs TIMES AzbSHGABzBARzDARA3zbUNzGAzcLzcN2 TENUzcR",
  "CUNEIFORM SIGN URU TIMES GUzHAzIGIzbMzbSHzKIzLAK-668zbU3zcMzMINzPAzSHEzbIG4zTUzU PLUS GUDzbD",
  "CUNEIFORM SIGN URU TIMES URUDAsDAu TIMES UqSHs TIMES AzKUzcRzTAK4s2sUMXsXqTUKIqZ3s TIMES KASKAL",
  "CUNEIFORM SIGN UZUpZAr SQUARED TIMES KURsTENUr7rGrMXqE2qIr OVER ZIr3rBs KABA TENUrGrZ2qU",
  "CUNEIFORM SIGN ZU OVER ZU PLUS SARr5s TIMES AzTHREE DISH TENUrBURrMcP ON BLACK SQUARE",
  "CUP WITH STRAWdCAKEdIDOcRLING STONEeY BRACKET EXTENSIONgLOGICAL ANDoORiOPdRENCY EXCHANGEjSIGN",
  "CURRY AND RICEdVED STEM PARAGRAPH SIGN ORNAMENTcSTARDeOMScT OF MEATbYCLONEcLINDRICITY",
  "CYPRIOT SYLLABLE ArErIrJAsOrKAsEsIsOsUrLAsEsIsOsUrMAsEsIsOsUrNAsEsIsOsUrOrPAsEsIsOsUrRAsEsIsOsU",
  "CYPRIOT SYLLABLE SAsEsIsOsUrTAsEsIsOsUrUrWAsEsIsOrXAsErZAsOeO-MINOAN SIGN CM001w2w4w5w6w7w8w9",
  "CYPRO-MINOAN SIGN CM010w1w2xBw3w5w7w9v21w3w4w5w6w7w8w9v30w3w4w5w6w7w8w9v40w1w4w6w7w9v50w1w2w3w4",
  "CYPRO-MINOAN SIGN CM055w6w8w9v60w1w2w3w4w6w7w8w9v70w1w2w3w4w5xBw6w8w9v80w1w2w3w4w5w6w7w8w9v90w1",
  "CYPRO-MINOAN SIGN CM092w4w5w6w7w8w9u100w1w2w3w4w5w7w8w9v10w2w4u301w2cRILLIC CAPITAL LETTER A",
  "CYRILLIC CAPITAL LETTER A WITH BREVEzgDIAERESISzBKHASIAN CHEzm WITH DESCENDERzjDZEzjHAzLEUT KA",
  "CYRILLIC CAPITAL LETTER BARRED Ozh WITH DIAERESISzbSHKIR KAzEzIG YUSzbNOCULAR OzLENDED YUS",
  "CYRILLIC CAPITAL LETTER BROAD OMEGAzYELORUSSIAN-UKRAINIAN IyCCHEzHEzc WITH DESCENDERzjIAERESIS",
  "CYRILLIC CAPITAL LETTER CHE WITH VERTICAL STROKEzLOSED LITTLE YUSzROSSED OyDCHEzEzJEzcRV",
  "CYRILLIC CAPITAL LETTER DOUBLE MONOCULAR OzgOzWEzZEzcLOzbHEzbWEzbZEzcHEyEz WITH DIAERESISzFzL",
  "CYRILLIC CAPITAL LETTER EL WITH DESCENDERzhHOOKzhMIDDLE HOOKzhTAILzMzb WITH TAILzN",
  "CYRILLIC CAPITAL LETTER EN WITH DESCENDERzhHOOKzhLEFT HOOKzhMIDDLE HOOKzhTAILzRzb WITH TICKzS",
  "CYRILLIC CAPITAL LETTER ES WITH DESCENDERyFITAyGHEzc WITH DESCENDERziMIDDLE HOOKziSTROKE",
  "CYRILLIC CAPITAL LETTER GHE WITH STROKE AND HOOKziUPTURNzJEyHAzb WITH DESCENDERzhHOOKzhSTROKE",
  "CYRILLIC CAPITAL LETTER HARD SIGNzWEyIz WITH DIAERESISzgGRAVEzgMACRONzEzb WITH BREVEzhGRAVEzO",
  "CYRILLIC CAPITAL LETTER IOTAzcIFIED AziBIG YUSziCLOSED LITTLE YUSziEziLITTLE YUSziYATzZHITSA",
  "CYRILLIC CAPITAL LETTER IZHITSA WITH DOUBLE GRAVE ACCENTyJEyKAzb WITH DESCENDERzhHOOKzhSTROKE",
  "CYRILLIC CAPITAL LETTER KA WITH VERTICAL STROKEzHAKASSIAN CHEzJEzOMI DEzfJEzfZJEzeLJEzeNJEzeSJE",
  "CYRILLIC CAPITAL LETTER KOMI TJEzeZJEzbPPAzSIyLHAzITTLE YUSzJEyMONOCULAR OzdGRAPH UK",
  "CYRILLIC CAPITAL LETTER NEUTRAL YERzJEyOz WITH DIAERESISzMEGAze WITH TITLOzTyPE",
  "CYRILLIC CAPITAL LETTER PE WITH DESCENDERzhMIDDLE HOOKzSIyQAyREVERSED DZEziTSEziYUziZEzHA",
  "CYRILLIC CAPITAL LETTER ROUND OMEGAySCHWAze WITH DIAERESISzEMISOFT SIGNzHAzbCHAzbHA",
  "CYRILLIC CAPITAL LETTER SHHA WITH DESCENDERzbORT Izg WITH TAILzfUzbWEzOFT DEzeELzfMzeSIGN",
  "CYRILLIC CAPITAL LETTER STRAIGHT Uzj WITH STROKEyTCHEzEzb WITH DESCENDERzhMIDDLE HOOKzSEzbHE",
  "CYRILLIC CAPITAL LETTER TSSEzbWEzWEyUz WITH DIAERESISzhOUBLE ACUTEzgMACRONzKzbRAINIAN IEyVEyWE",
  "CYRILLIC CAPITAL LETTER YAzbEzbTzERUzd WITH BACK YERzjDIAERESISzIzNzUyZEzb WITH DESCENDER",
  "CYRILLIC CAPITAL LETTER ZE WITH DIAERESISzbMLYAzHEzc WITH BREVEziDESCENDERzjIAERESISzbWE",
  "CYRILLIC CAPITAL LIGATURE A IEzbEN GHEzbTE TSEjKAVYKAjLETTER MULTIOCULAR OqPALOCHKA",
  "CYRILLIC LETTER SMALL CAPITAL ELjPAYEROKjSMALL LETTER Ax WITH BREVEzeDIAERESISxBKHASIAN CHE",
  "CYRILLIC SMALL LETTER ABKHASIAN CHE WITH DESCENDERzhDZEzhHAxLEUT KAwBARRED Ozf WITH DIAERESIS",
  "CYRILLIC SMALL LETTER BASHKIR KAxExIG YUSyNOCULAR OxLENDED YUSxROAD OMEGA",
  "CYRILLIC SMALL LETTER BYELORUSSIAN-UKRAINIAN IwCCHExHEz WITH DESCENDERzhIAERESIS",
  "CYRILLIC SMALL LETTER CHE WITH VERTICAL STROKExLOSED LITTLE YUSxROSSED OwDCHExExJEzRV",
  "CYRILLIC SMALL LETTER DOUBLE MONOCULAR OzeOxWExZEzLOyHEyWEyZEzHEwEx WITH DIAERESISxFxL",
  "CYRILLIC SMALL LETTER EL WITH DESCENDERzfHOOKzfMIDDLE HOOKzfTAILxMy WITH TAILxNy WITH DESCENDER",
  "CYRILLIC SMALL LETTER EN WITH HOOKzfLEFT HOOKzfMIDDLE HOOKzfTAILxRy WITH TICKxSy WITH DESCENDER",
  "CYRILLIC SMALL LETTER FITAwGHEz WITH DESCENDERzgMIDDLE HOOKzgSTROKEzm AND HOOKzgUPTURNxJEwHA",
  "CYRILLIC SMALL LETTER HA WITH DESCENDERzfHOOKzfSTROKEyRD SIGNxWEwIx WITH DIAERESISzeGRAVE",
  "CYRILLIC SMALL LETTER I WITH MACRONxEy WITH BREVEzfGRAVExOyTAzIFIED AzgBIG YUS",
  "CYRILLIC SMALL LETTER IOTIFIED CLOSED LITTLE YUSzgEzgLITTLE YUSzgYATxZHITSA",
  "CYRILLIC SMALL LETTER IZHITSA WITH DOUBLE GRAVE ACCENTwJEwKAy WITH DESCENDERzfHOOKzfSTROKE",
  "CYRILLIC SMALL LETTER KA WITH VERTICAL STROKExHAKASSIAN CHExJExOMI DEzdJEzdZJEzcLJEzcNJEzcSJE",
  "CYRILLIC SMALL LETTER KOMI TJEzcZJEyPPAxSIwLHAxITTLE YUSxJExONG-LEGGED DEwMONOCULAR OzbGRAPH UK",
  "CYRILLIC SMALL LETTER NARROW OxEUTRAL YERxJEwOx WITH DIAERESISxMEGAzc WITH TITLOxTwPALOCHKAxE",
  "CYRILLIC SMALL LETTER PE WITH DESCENDERzfMIDDLE HOOKxSIwQAwREVERSED DZEzgTSEzgYUzgZExHA",
  "CYRILLIC SMALL LETTER ROUND OMEGAzcED VEwSCHWAzc WITH DIAERESISxEMISOFT SIGNxHAyCHAyHA",
  "CYRILLIC SMALL LETTER SHHA WITH DESCENDERyORT Ize WITH TAILzdUyWExOFT DEzcELzdMzcSIGNxTRAIGHT U",
  "CYRILLIC SMALL LETTER STRAIGHT U WITH STROKEwTALL HARD SIGNzcTEzcYATxCHExEy WITH DESCENDER",
  "CYRILLIC SMALL LETTER TE WITH MIDDLE HOOKxHREE-LEGGED TExSEyHEySEyWExWEwUx WITH DIAERESIS",
  "CYRILLIC SMALL LETTER U WITH DOUBLE ACUTEzeMACRONxKyRAINIAN IExNBLENDED UKwVEwWExIDE ESwYAyEyT",
  "CYRILLIC SMALL LETTER YERUzb WITH BACK YERzhDIAERESISxIxNxUwZEy WITH DESCENDERzgIAERESISyMLYA",
  "CYRILLIC SMALL LETTER ZHEz WITH BREVEzgDESCENDERzhIAERESISyWEqIGATURE A IEyEN GHEyTE TSE",
  "CYRILLIC THOUSANDS SIGNaDAGGERg KNIFEhWITH LEFT GUARDmRIGHT GUARDcLET SYMBOLcNCERdGOcRK SHADE",
  "DARK SUNGLASSEScSH SYMBOLfWITH LEFT UPTURNeED LOW LINEhOVERLINE",
  "DASHED TRIANGLE-HEADED RIGHTWARDS ARROWcTA LINK ESCAPEbC1c2c3c4cSbEAF PERSONcCIDUOUS TREE",
  "DECIMAL EXPONENT SYMBOLiSEPARATOR KEY SYMBOLdREASE FONT SIZE SYMBOLcERcGREE CELSIUShFAHRENHEIT",
  "DEGREE SIGNcLdETEdIVERY TRUCKdTA EQUAL TOcNTISTRY SYMBOL LIGHT DOWN AND HORIZONTAL",
  "DENTISTRY SYMBOL LIGHT DOWN AND HORIZONTAL WITH CIRCLEzxTRIANGLEzxWAVExUP AND HORIZONTAL",
  "DENTISTRY SYMBOL LIGHT UP AND HORIZONTAL WITH CIRCLEzvTRIANGLEzvWAVExVERTICAL AND BOTTOM LEFT",
  "DENTISTRY SYMBOL LIGHT VERTICAL AND BOTTOM RIGHTzlTOP LEFTzpRIGHTzlWAVEzhWITH CIRCLEzmTRIANGLE",
  "DEPARTMENT STOREcRELICT HOUSE BUILDINGcSCENDING NODEdERET CAPITAL LETTER AYxBEExCHEExDEExEFyLyM",
  "DESERET CAPITAL LETTER ENzGyRySzHyTHyWxGAYxHxJEExKAYxLONG AzeHzdEzdIzdOzeOxOIyWxPEExSHORT AzfH",
  "DESERET CAPITAL LETTER SHORT EzeIzeOzfOxTEEyHEExVEExWUxYEExZEEyHEEiSMALL LETTER AYvBEEvCHEEvDEE",
  "DESERET SMALL LETTER EFwLwMwNxGwRwSxHwTHwWvGAYvHvJEEvKAYvLONG AzcHzbEzbIzbOzcOvOIwWvPEEvSHORT A",
  "DESERET SMALL LETTER SHORT AHzcEzcIzcOzdOvTEEwHEEvVEEvWUvYEEvZEEwHEEfTg ISLANDdKTOP COMPUTER",
  "DESKTOP WINDOWcVANAGARI ABBREVIATION SIGNmCUTE ACCENTlCARETlDANDAmIGIT EIGHTrFIVEsOURrNINErONE",
  "DEVANAGARI DIGIT SEVENsIXrTHREEsWOrZEROmOUBLE DANDAlGAP FILLERmRAVE ACCENTlHEADSTROKElJAIN OM",
  "DEVANAGARI LETTER AtAtItUtWtYsBAtBAtHAsCAuNDRA AzEzOtHAsDAtDAuDAvHAuHAtHAsEsFAsGAtGAtHAuHA",
  "DEVANAGARI LETTER GLOTTAL STOPsHAtEAVY YAsItIsJAtHAtJAsKAtHAuHAsLAtLAuLAsMAuRWARI DDAsNAtGAtNA",
  "DEVANAGARI LETTER NNNAtYAsOtEtOEsPAtHAsQAsRAtHAtRAsSAtHAuORT AyEyOtSAsTAtHAtTAuHAsUtEtUuEsVA",
  "DEVANAGARI LETTER VOCALIC LzcLzbRzcRsYAtYAsZAtHAlOMlSIGN ANUSVARArVAGRAHAqCANDRABINDU",
  "DEVANAGARI SIGN CANDRABINDU AVAGRAHAzdTHREEzeWOzdVIRAMAqDOUBLE CANDRABINDU VIRAMA",
  "DEVANAGARI SIGN HIGH SPACING DOTqINVERTED CANDRABINDUqNUKTAqPUSHPIKAqSIDDHAMrPACING CANDRABINDU",
  "DEVANAGARI SIGN VIRAMAsSARGAmTRESS SIGN ANUDATTAxUDATTAlVOWEL SIGN AAxIxUxWxYwCANDRA EzeLONG E",
  "DEVANAGARI VOWEL SIGN CANDRA OwEwIxIwOxExOEwPRISHTHAMATRA EwSHORT EzdOwUxExUyEwVOCALIC LzgLzfR",
  "DEVANAGARI VOWEL SIGN VOCALIC RRdICE CONTROL FOURpONEpSTRINGpTHREEqWObIAERESISdMETER SIGN",
  "DIAMOND OPERATORiSHAPE WITH A DOT INSIDEiTARGETiWITH BOTTOM HALF BLACKnLEFT HALF BLACK",
  "DIAMOND WITH RIGHT HALF BLACKnTOP HALF BLACKcE FACE-1j2j3j4j5j6dSEL LOCOMOTIVEcFFERENCE BETWEEN",
  "DIGIT EIGHTl COMMAmFULL STOPgFIVEk COMMAlFULL STOPhOURk COMMAlFULL STOPgNINEk COMMAlFULL STOP",
  "DIGIT ONEj COMMAkFULL STOPgSEVENl COMMAmFULL STOPhIXj COMMAkFULL STOPgTHREEl COMMAmFULL STOPhWO",
  "DIGIT TWO COMMAkFULL STOPgZEROk COMMAlFULL STOPdRAM FOR EARTHqLY HEAVENuUMANlGREATER YANGuIN",
  "DIGRAM FOR HEAVENLY EARTHmUMAN EARTHlLESSER YANGtINcMENSION ORIGIN",
  "DINGBAT CIRCLED SANS-SERIF DIGIT EIGHTziFIVEzjOURziNINEziONEziSEVENzjIXziTHREEzjWOziZERO",
  "DINGBAT CIRCLED SANS-SERIF NUMBER TENiNEGATIVE CIRCLED DIGIT EIGHTzgFIVEzhOURzgNINEzgONEzgSEVEN",
  "DINGBAT NEGATIVE CIRCLED DIGIT SIXzgTHREEzhWOzNUMBER TENzSANS-SERIF DIGIT EIGHTzrFIVEzsOUR",
  "DINGBAT NEGATIVE CIRCLED SANS-SERIF DIGIT NINEzrONEzrSEVENzsIXzrTHREEzsWOzrZEROzlNUMBER TEN",
  "DIRECT CURRENT SYMBOL FORM TWOhHITcSABLED CARePPOINTED BUT RELIEVED FACEnFACE",
  "DISCONTINUOUS UNDERLINE SYMBOLdGUISED FACEcTTO MARKcVES AKURU DIGIT EIGHTsFIVEtOURsNINEsONE",
  "DIVES AKURU DIGIT SEVENtIXsTHREEtWOsZEROnOUBLE DANDAmEND OF TEXT MARKmGAP FILLERmINITIAL RA",
  "DIVES AKURU LETTER AuAtBAuHAtCAuHAtDAuDAvHAuHAtEtGAuHAtHAtIuItJAtKAuHAtLAuLAtMAtNAuGAuNAuYAtO",
  "DIVES AKURU LETTER PAuHAtRAtSAuHAuSAtTAuHAuTAtUuUtVAtYAuYAtZAmMEDIAL RAtYAmPREFIXED NASAL SIGN",
  "DIVES AKURU SIGN ANUSVARArCANDRABINDUrHALANTArNUKTAmVIRAMAnOWEL SIGN AAyIxExIyIxOxUyUdIDES",
  "DIVING MASKeSION SIGNkLASHjTIMESdORCE SYMBOLcYA LAMPcZZY FACEgSYMBOLbLEbNA DOUBLE HELIX",
  "DO NOT LITTER SYMBOLcCUMENTi WITH PICTUREoTEXTs AND PICTUREcDOcES NOT CONTAIN AS MEMBER",
  "DOES NOT CONTAIN AS NORMAL SUBGROUPzk OR EQUALjDIVIDEp WITH REVERSED NEGATION SLASHjFORCE",
  "DOES NOT PRECEDEq OR EQUALlOVEjSUCCEEDq OR EQUALcGd FACEdRA ABBREVIATION SIGNgLETTER AoAoIoUnBA",
  "DOGRA LETTER BHAnCAoHAnDAoDApHAoHAnEnGAoHAnHAnIoInJAoHAnKAoHAnLAnMAnNAoGAoNAoYAnOnPAoHAnRAoRA",
  "DOGRA LETTER SAoHAoSAnTAoHAoTApHAnUoUnVAnYAgSIGN ANUSVARAlNUKTAlVIRAMAnSARGAgVOWEL SIGN AAsIsU",
  "DOGRA VOWEL SIGN ErIsIrOrUsUrVOCALIC RzbRcLLAR SIGNdPHINcMINO TILE HORIZONTAL BACKw-00-00zc1zc2",
  "DOMINO TILE HORIZONTAL-00-03zc4zc5zc6y1-00zc1zc2zc3zc4zc5zc6y2-00zc1zc2zc3zc4zc5zc6y3-00zc1zc2",
  "DOMINO TILE HORIZONTAL-03-03zc4zc5zc6y4-00zc1zc2zc3zc4zc5zc6y5-00zc1zc2zc3zc4zc5zc6y6-00zc1zc2",
  "DOMINO TILE HORIZONTAL-06-03zc4zc5zc6mVERTICAL BACKu-00-00z1z2z3z4z5z6w1-00z1z2z3z4z5z6w2-00z1",
  "DOMINO TILE VERTICAL-02-02z3z4z5z6w3-00z1z2z3z4z5z6w4-00z1z2z3z4z5z6w5-00z1z2z3z4z5z6w6-00z1z2",
  "DOMINO TILE VERTICAL-06-03z4z5z6cNG SIGNcORcT ABOVEeMINUSeOPERATORePLUSdTED CIRCLEiROSShFENCE",
  "DOTTED LINE FACEhOBELOShRIGHT-POINTING ANGLEhSOLIDUSiQUAREhTRANSPOSITION MARKER",
  "DOUBLE ACUTE ACCENThCIRCLED DIGIT EIGHTvFIVEwOURvNINEvONEvSEVENwIXvTHREEwWOpNUMBER TEN",
  "DOUBLE COLON EQUALiURLY LOOPhDAGGERiOWN TACKhEXCLAMATION MARKhHIGH-REVERSED-9 QUOTATION MARK",
  "DOUBLE HYPHENhINTEGRALlRSECTIONhLEFT ARC GREATER-THAN BRACKETiOGICAL ANDpORjW LINE",
  "DOUBLE LOW-9 QUOTATION MARKlREVERSED-9 QUOTATION MARKhNESTED GREATER-THANoLESS-THAN",
  "DOUBLE NESTED LESS-THAN WITH UNDERBARhOBLIQUE HYPHENhPLUSiRECEDESjIMEm QUOTATION MARK",
  "DOUBLE QUESTION MARKhRIGHT ARC LESS-THAN BRACKEThSOLIDUS OPERATORiQUARE INTERSECTIONoUNION",
  "DOUBLE STACKED COMMAjROKE NOT SIGNiUBSETjCCEEDSjPERSETjSPENSION MARKhUNIONiP TACKhVERTICAL BAR",
  "DOUBLE VERTICAL BAR DOUBLE LEFT TURNSTILEzcRIGHT TURNSTILEuLEFT TURNSTILEqLINEhWAVY OVERLINE",
  "DOUBLE-ENDED MULTIMAPhLINE EQUAL TO OR GREATER-THANyLESS-THANmSLANTED EQUAL TO OR GREATER-THAN",
  "DOUBLE-LINE SLANTED EQUAL TO OR LESS-THANuGREATER-THAN OR EQUAL TOuLESS-THAN OR EQUAL TO",
  "DOUBLE-STRUCK CAPITAL CwGAMMAwHwNwPxIwQwRwZoITALIC CAPITAL DvSMALL DzcEzcIzcJoN-ARY SUMMATION",
  "DOUBLE-STRUCK SMALL GAMMAuPIgD FEMALE SIGNiMALE SIGNiSYMBOLdGHNUTcVE OF PEACEcWN ARROWHEAD",
  "DOWN FISH TAILfRIGHT DIAGONAL ELLIPSISfTACKj WITH CIRCLE BELOWe-POINTING RED TRIANGLE",
  "DOWN-POINTING SMALL RED TRIANGLEoTRIANGLE WITH LEFT HALF BLACKzdRIGHT HALF BLACK",
  "DOWNWARD FACING HOOKu WITH DOTqNOTCHED HOOKzd WITH DOTiS ANCORAlRROW",
  "DOWNWARDS ARROW AND RIGHT ONE EIGHTH BLOCKqFROM BARqLEFTWARDS OF UPWARDS ARROWqTO BAR",
  "DOWNWARDS ARROW WITH CORNER LEFTWARDSvDOUBLE STROKEvEQUILATERAL ARROWHEADvHORIZONTAL STROKE",
  "DOWNWARDS ARROW WITH LARGE TRIANGLE ARROWHEADvMEDIUM TRIANGLE ARROWHEADvNOTCHED TAIL",
  "DOWNWARDS ARROW WITH SMALL EQUILATERAL ARROWHEADzcTRIANGLE ARROWHEADvTIP LEFTWARDSzRIGHTWARDS",
  "DOWNWARDS BLACK ARROWqCIRCLED WHITE ARROWkCOMPRESSED ARROWkDASHED ARROWlOUBLE ARROW",
  "DOWNWARDS FINGER-POST ARROWkHARPOON WITH BARB LEFT BESIDE DOWNWARDS HARPOON WITH BARB RIGHT",
  "DOWNWARDS HARPOON WITH BARB LEFT BESIDE UPWARDS HARPOON WITH BARB RIGHTziFROM BARziTO BAR",
  "DOWNWARDS HARPOON WITH BARB LEFTWARDSzdRIGHT FROM BARzjTO BARziWARDSlEAVY ARROW",
  "DOWNWARDS HEAVY COMPRESSED ARROWkPAIRED ARROWSkQUADRUPLE ARROWkROCKETkSANS-SERIF ARROW",
  "DOWNWARDS SQUARED ARROWkTRIANGLE ARROWHEADs-HEADED ARROW",
  "DOWNWARDS TRIANGLE-HEADED ARROW LEFTWARDS OF UPWARDS TRIANGLE-HEADED ARROWzhTO BAR",
  "DOWNWARDS TRIANGLE-HEADED ARROW WITH BOLD SHAFTzmDOUBLE HORIZONTAL STROKEzmHEAVY SHAFT",
  "DOWNWARDS TRIANGLE-HEADED ARROW WITH LONG TIP LEFTWARDSzvRIGHTWARDSzmMEDIUM SHAFTzmNARROW SHAFT",
  "DOWNWARDS TRIANGLE-HEADED ARROW WITH VERY HEAVY SHAFTzbDASHED ARROWzbPAIRED ARROWS",
  "DOWNWARDS TRIANGLE-HEADED ZIGZAG ARROWnPLE ARROWlWO HEADED ARROW",
  "DOWNWARDS TWO-HEADED ARROW WITH TRIANGLE ARROWHEADSkWHITE ARROWv WITHIN TRIANGLE ARROWHEAD",
  "DOWNWARDS ZIGZAG ARROWbRACHMA SIGNdFTING POINT RIGHTWARDS ARROWdGONg FACEcESScIVE SLOW SIGN",
  "DROMEDARY CAMELdOLING FACEdP OF BLOODeLETcUM WITH DRUMSTICKSbUCKcMPLING",
  "DUPLOYAN AFFIX ATTACHED E HOOKyI HOOKyLEFT-TO-RIGHT SECANTySECANTyTAILzbNGENTzg HOOKpHIGH ACUTE",
  "DUPLOYAN AFFIX HIGH CIRCLEuDOTuGRAVEuLINEvONG GRAVEuTIGHT ACUTEuVERTICALzd SECANTuWAVE",
  "DUPLOYAN AFFIX LEFT HORIZONTAL SECANTqOW ACUTEuRROWtCIRCLEtDOTtGRAVEtLINEuONG GRAVEtTIGHT ACUTE",
  "DUPLOYAN AFFIX LOW VERTICALzc SECANTtWAVEpMID HORIZONTAL SECANTtVERTICAL SECANT",
  "DUPLOYAN AFFIX RIGHT HORIZONTAL SECANTjDOUBLE MARKjLETTER ArOUqBqDr SrHqErErUqFr NqGr R SqHrLqI",
  "DUPLOYAN LETTER IEqJr Mt SsNt SsSt WITH DOTsWITH DOTzbS INSIDE AND ABOVEqKr MsR SrKqLrHrONG IvU",
  "DUPLOYAN LETTER Mr Nt SsSsWITH DOTqNr Mt SsSsWITH DOTrASAL AwIwOwUqOrArOHrUrWqPr NrERNIN AMyNqR",
  "DUPLOYAN LETTER R SrHrOMANIAN IzUqSr Jt SsKt RsMsNsPt RsSsTt RsWITH DOTzb BELOWrHORT IrLOAN AN",
  "DUPLOYAN LETTER SLOAN DHwEExHxNwJwONxWwUqTr R SsSrHqUr NrHrIqVrOCALIC MqWr RrArEIrHrIrOsWqXrW",
  "DUPLOYAN LETTER YEjPUNCTUATION CHINOOK FULL STOPjSIGN O WITH CROSSjTHICK LETTER SELECTORbVD",
  "E-MAIL SYMBOLbAGLEcRd OF MAIZEhRICEeWITH HEARING AIDdTHf GLOBE AMERICASnSIA-AUSTRALIA",
  "EARTH GLOBE EUROPE-AFRICAhROUNDcST SYRIAC CROSSbDITORIAL CORONISbGGcYPTIAN HIEROGLYPH A001x2x3",
  "EGYPTIAN HIEROGLYPH A004x5yAx6yAyBx7x8x9w10x1x2x3x4yAx5x6x7yAx8x9w20x1x2x3x4x5x6x7x8x9w30x1x2yA",
  "EGYPTIAN HIEROGLYPH A033x4x5x6x7x8x9w40yAx1x2yAx3yAx4x5yAx6x7x8x9w50x1x2x3x4x5x6x7x8x9w60x1x2x3",
  "EGYPTIAN HIEROGLYPH A064x5x6x7x8x9w70vA001y2y3y4y5y6y7zAzBy8y9x10y1y2y3y4y5y6y7y8y9x20y1y2y3y4",
  "EGYPTIAN HIEROGLYPH AA025y6y7y8y9x30y1y2uB001x2x3x4x5yAx6x7x8x9vEGIN SEGMENTuC001x2yAyByCx3x4x5",
  "EGYPTIAN HIEROGLYPH C006x7x8x9w10yAx1x2x3x4x5x6x7x8x9w20x1x2x3x4uD001x2x3x4x5x6x7x8yAx9w10x1x2",
  "EGYPTIAN HIEROGLYPH D013x4x5x6x7x8x9w20x1x2x3x4x5x6x7yAx8x9w30x1yAx2x3x4yAx5x6x7x8x9w40x1x2x3x4",
  "EGYPTIAN HIEROGLYPH D045x6yAx7x8yAx9w50yAyByCyDyEyFyGyHyIx1x2yAx3x4yAx5x6x7x8x9w60x1x2x3x4x5x6",
  "EGYPTIAN HIEROGLYPH D067yAyByCyDyEyFyGyHuE001x2x3x4x5x6x7x8yAx9yAw10x1x2x3x4x5x6yAx7yAx8x9w20yA",
  "EGYPTIAN HIEROGLYPH E021x2x3x4x5x6x7x8yAx9w30x1x2x3x4yAx6x7x8vND SEGMENTuF001yAx2x3x4x5x6x7x8x9",
  "EGYPTIAN HIEROGLYPH F010x1x2x3yAx4x5x6x7x8x9w20x1yAx2x3x4x5x6x7x8x9w30x1yAx2x3x4x5x6x7yAx8yAx9",
  "EGYPTIAN HIEROGLYPH F040x1x2x3x4x5yAx6yAx7yAx8x9w50x1yAyByCx2x3uG001x2x3x4x5x6yAx7yAyBx8x9w10x1",
  "EGYPTIAN HIEROGLYPH G011Ax2x3x4x5x6x7x8x9w20yAx1x2x3x4x5x6yAx7x8x9w30x1x2x3x4x5x6yAx7yAx8x9w40",
  "EGYPTIAN HIEROGLYPH G041x2x3yAx4x5yAx6x7x8x9w50x1x2x3x4uH001x2x3x4x5x6yAx7x8vORIZONTAL JOINER",
  "EGYPTIAN HIEROGLYPH I001x2x3x4x5yAx6x7x8x9yAw10yAx1yAx2x3x4x5vNSERT AT BOTTOM ENDzmSTART",
  "EGYPTIAN HIEROGLYPH INSERT AT TOP ENDzjSTARTuK001x2x3x4x5x6x7x8uL001x2yAx3x4x5x6yAx7x8uM001yAyB",
  "EGYPTIAN HIEROGLYPH M002x3yAx4x5x6x7x8x9w10yAx1x2yAyByCyDyEyFyGyHx3x4x5yAx6yAx7yAx8x9w20x1x2yA",
  "EGYPTIAN HIEROGLYPH M023x4yAx5x6x7x8yAx9w30x1yAx2x3yAyBx4x5x6x7x8x9w40yAx1x2x3x4uN001x2x3x4x5x6",
  "EGYPTIAN HIEROGLYPH N007x8x9w10x1x2x3x4x5x6x7x8yAyBx9w20x1x2x3x4x5yAx6x7x8x9w30x1x2x3yAx4yAx5yA",
  "EGYPTIAN HIEROGLYPH N036x7yAx8x9w40x1x2vL001y2y3y4y5zAy6y7y8y9x10y1y2y3y4y5y6y7zAy8y9x20vU001y2",
  "EGYPTIAN HIEROGLYPH NU003y4y5y6y7y8y9x10zAy1zAy2y3y4y5y6y7y8zAy9x20y1y2zAuO001yAx2x3x4x5yAx6yA",
  "EGYPTIAN HIEROGLYPH O006ByCyDyEyFx7x8x9w10yAyByCx1x2x3x4x5x6x7x8x9yAw20yAx1x2x3x4yAx5yAx6x7x8x9",
  "EGYPTIAN HIEROGLYPH O029Aw30yAx1x2x3yAx4x5x6yAyByCyDx7x8x9w40x1x2x3x4x5x6x7x8x9w50yAyBx1",
  "EGYPTIAN HIEROGLYPH OVERLAY MIDDLEuP001yAx2x3yAx4x5x6x7x8x9w10x1uQ001x2x3x4x5x6x7uR001x2yAx3yA",
  "EGYPTIAN HIEROGLYPH R003Bx4x5x6x7x8x9w10yAx1x2x3x4x5x6yAx7x8x9w20x1x2x3x4x5x6x7x8x9uS001x2yAx3",
  "EGYPTIAN HIEROGLYPH S004x5x6yAx7x8x9w10x1x2x3x4yAyBx5x6x7yAx8x9w20x1x2x3x4x5x6yAyBx7x8x9w30x1x2",
  "EGYPTIAN HIEROGLYPH S033x4x5yAx6x7x8x9w40x1x2x3x4x5x6uT001x2x3yAx4x5x6x7yAx8yAx9yAw10x1yAx2x3x4",
  "EGYPTIAN HIEROGLYPH T015x6yAx7x8x9w20x1x2x3x4x5x6x7x8x9w30x1x2yAx3yAx4x5x6uU001x2x3x4x5x6yAyBx7",
  "EGYPTIAN HIEROGLYPH U008x9w10x1x2x3x4x5x6x7x8x9w20x1x2x3yAx4x5x6x7x8x9yAw30x1x2yAx3x4x5x6x7x8x9",
  "EGYPTIAN HIEROGLYPH U040x1x2uV001yAyByCyDyEyFyGyHyIx2yAx3x4x5x6x7yAyBx8x9w10x1yAyByCx2yAyBx3x4",
  "EGYPTIAN HIEROGLYPH V015x6x7x8x9w20yAyByCyDyEyFyGyHyIyJyKyLx1x2x3yAx4x5x6x7x8yAx9yAw30yAx1yAx2",
  "EGYPTIAN HIEROGLYPH V033yAx4x5x6x7yAx8x9w40yAvERTICAL JOINERuW001x2x3yAx4x5x6x7x8x9yAw10yAx1x2",
  "EGYPTIAN HIEROGLYPH W013x4yAx5x6x7yAx8yAx9w20x1x2x3x4yAx5uX001x2x3x4yAyBx5x6yAx7x8yAuY001yAx2x3",
  "EGYPTIAN HIEROGLYPH Y004x5x6x7x8uZ001x2yAyByCyDx3yAyBx4yAx5yAx6x7x8x9w10x1x2x3x4x5yAyByCyDyEyF",
  "EGYPTIAN HIEROGLYPH Z015GyHyIx6yAyByCyDyEyFyGyHbIGHT PETALLED OUTLINED BLACK FLORETTE",
  "EIGHT POINTED BLACK STARoPINWHEEL STARoRECTILINEAR BLACK STARgSPOKED ASTERISK",
  "EIGHT TEARDROP-SPOKED PROPELLER ASTERISKfH NOTEbJECT SYMBOLbLBASAN LETTER ApBEpCEqHEpDEqHEpEqI",
  "ELBASAN LETTER FEpGEqHAMMArEqJEpHEpIpJEpKEqHEpLEqLEpMEpNAqDEqEqJEpOpPEpQEpREqREpSEqHEpTEqHEpU",
  "ELBASAN LETTER VEpXEpYpZEqHEcECTRIC ARROWjLIGHT BULBjPLUGjTORCHiAL INTERSECTIONdMENT OF",
  "ELEMENT OF OPENING DOWNWARDStUPWARDSlWITH DOT ABOVEqLONG HORIZONTAL STROKEqOVERBAR",
  "ELEMENT OF WITH TWO HORIZONTAL STROKESqUNDERBARqVERTICAL BAR AT END OF HORIZONTAL STROKEdPHANT",
  "ELEVATORcFcYMAIC LETTER ALEPHqYINpBETHpDALETHpGIMELpHErTHpKAPHpLAMEDHpMEMpNUNpPEpQOPHpRESH",
  "ELYMAIC LETTER SADHErMEKHqHINpTAWqETHpWAWpYODHpZAYINjIGATURE ZAYIN-YODHbM DASHdQUADdSPACE",
  "EMOJI COMPONENT BALDqCURLY HAIRqRED HAIRqWHITE HAIRgMODIFIER FITZPATRICK TYPE-1-2zh3zh4zh5zh6",
  "EMPHASIS SYMBOLdTY DOCUMENTgNESThOTEk PADnGEgPAGEkSgSETj WITH LEFT ARROW ABOVEpOVERBAR",
  "EMPTY SET WITH RIGHT ARROW ABOVEpSMALL CIRCLE ABOVEbN DASHdQUADdSPACEcD OF GUARDED AREAhLINE",
  "END OF MEDIUMhPROOFkTECTED AREAhSELECTED AREAhTEXTiRANSMISSIONt BLOCK",
  "END WITH LEFTWARDS ARROW ABOVEcQdUIRYcTER SYMBOLcVELOPEi WITH DOWNWARDS ARROW ABOVEoLIGHTNING",
  "EOLcMcTbPAbQUAL AND PARALLEL TOgTO BY DEFINITIONjOR GREATER-THANmLESS-THANmPRECEDESmSUCCEEDS",
  "EQUALS COLONhSIGNl ABOVE LEFTWARDS ARROWsPLUS SIGNsRIGHTWARDS ARROWsTILDE OPERATOR",
  "EQUALS SIGN AND SLANTED PARALLELzh WITH TILDE ABOVEmWITH BUMPY ABOVErDOT BELOWrINFINITY BELOW",
  "EQUALS SIGN WITH TWO DOTS ABOVE AND TWO DOTS BELOWhWITH ASTERISKdIANGULAR TOeVALENT TO",
  "EQUIVALENT WITH FOUR DOTS ABOVEbRASE TO THE LEFTnRIGHTcIS FORM ONEkTWOcROR-BARRED BLACK CIRCLE",
  "ERROR-BARRED BLACK DIAMONDtSQUAREnWHITE CIRCLEtDIAMONDtSQUAREbSAcCdAPEcTIMATED SYMBOLiSbTB",
  "ETHIOPIC COLONlMBINING GEMINATION AND VOWEL LENGTH MARKzfMARKtVOWEL LENGTH MARKmMAjDIGIT EIGHT",
  "ETHIOPIC DIGIT FIVEqOURpNINEpONEpSEVENqIXpTHREEqWOjFULL STOPjNUMBER EIGHTYqFIFTYrORTYqHUNDRED",
  "ETHIOPIC NUMBER NINETYqSEVENTYrIXTYqTENt THOUSANDrHIRTYrWENTYjPARAGRAPH SEPARATORkREFACE COLON",
  "ETHIOPIC QUESTION MARKjSECTION MARKlMICOLONkYLLABLE BAuAtBAvAuEvEuIuOuUtEuEtItOuAtUtWAuEvEuIsCA",
  "ETHIOPIC SYLLABLE CAAtCAvAuEvEuHAwAvEwEvHAxAwExEwIwOwUvIvOvUuIuOuUtEuEtHAvAuEvEuIuOvAuUuWAtItO",
  "ETHIOPIC SYLLABLE COAtUtWAsDAuAtDAvAuEvEuHAAvEwEvIvOvUuIuOvAuUuWAtEuEtItOuAtUtWAtZAAuEvEuIuOuU",
  "ETHIOPIC SYLLABLE FAuAtEuEtItOtUtWAuEvEuItYAsGAuAtEuEtGAvAuEvEuIuOuUuWAwAvEwEvItItLOTTAL AzcA",
  "ETHIOPIC SYLLABLE GLOTTAL EzcEzbIzbOzcAzbUzbWAtOuAtUuRAGE BWEEzcIzFWEEzcIzGWEzdEzcIzHHWAzKWEzdE",
  "ETHIOPIC SYLLABLE GURAGE KWIzMWEEzcIzPWEEzcIzQWEzdEzcItWAvAuEvEuItYAvAuEvEuIuOuUsHAuAtEuEtHAvA",
  "ETHIOPIC SYLLABLE HHEvEuIuOuUuWAvEwEvIuYAwAvEwEvIvOvUtItOuAtUsJAuAtEuEtItOuAtUtWAsKAuAtEuEtItO",
  "ETHIOPIC SYLLABLE KOAtUtWAvAuEvEuItXAvAuEvEuIuOuUuWAwAvEwEvItYAvAuEvEuIuOuUsLAuAtEuEtItOuAtUtWA",
  "ETHIOPIC SYLLABLE MAuAtEuEtItOuAtUtWAuEvEuItYAsNAuAtEuEtItOuAtUtWAtYAvAuEvEuIuOvAuUuWAsPAuAtEuE",
  "ETHIOPIC SYLLABLE PHAvAvRYNGEAL AzfAzeEzfEzeIzeOzeUuEvEuIuOvAuUuWAtItOuAtUtWAuEvEuIsQAuAtEuEtHA",
  "ETHIOPIC SYLLABLE QHAAuEvEuIuOuUuWAwAvEwEvItItOuAtUtWAvAuEvEuItYAvAuEvEuIuOuUsRAuAtEuEtItOuAtU",
  "ETHIOPIC SYLLABLE RWAtYAsSAuAtEuBATBEIT BWAzdFWAzdMWAzdPWAuEtHAvAuEvEuIuOvAuUuWAtItOuAtSAvAuEvE",
  "ETHIOPIC SYLLABLE SSIuOuUtUtWAtZAvAuEvEuIuOuUuWAsTAuAtEuEtHAvAuEvEuIuOvAuUuWAtItOuAtSAvAuEvEuI",
  "ETHIOPIC SYLLABLE TSOuUuWAtTHAAvEwEvIvOvUtUtWAtZAvAuEvEuIuOvAuUsVAuAtEuEtItOtUtWAsWAuAtEuEtItO",
  "ETHIOPIC SYLLABLE WOAtUsXAuAtEuEtItOuAtUtWAvAuEvEuItYAvAuEvEuIuOuUsYAuAtEuEtItOuAtUsZAuAtEuEtHA",
  "ETHIOPIC SYLLABLE ZHAAuEvEuIuOuUuWAtItOuAtUtWAtZAvAuEvEuIuOuUjTONAL MARK CHIRETuDERETz-HIDET",
  "ETHIOPIC TONAL MARK DIFATuHIDETuKENATvURTuRIKRIKuSHORT RIKRIKuYIZETjWORDSPACEcXbULER CONSTANT",
  "EURO SIGNe-CURRENCY SIGNePEAN CASTLEjPOST OFFICEbVERGREEN TREEbXCESSdLAMATION MARK",
  "EXCLAMATION QUESTION MARKcPRESSIONLESS FACEcTENDED ARABIC-INDIC DIGIT EIGHTzdFIVEzeOURzdNINE",
  "EXTENDED ARABIC-INDIC DIGIT ONEzdSEVENzeIXzdTHREEzeWOzdZEROdRATERRESTRIAL ALIEN",
  "EXTREMELY HEAVY FIVE SPOKED ASTERISKqGREEK CROSSqSALTIRErIX SPOKED ASTERISKqWHITE CIRCLEwSQUARE",
  "EYEdGLASSESdSaFACE HOLDING BACK TEARSfMASSAGEfPALMfSAVOURING DELICIOUS FOODgCREAMING IN FEAR",
  "FACE THROWING A KISSfWITH COLD SWEATmWBOY HATkDIAGONAL MOUTHkFINGER COVERING CLOSED LIPS",
  "FACE WITH HEAD-BANDAGEkLOOK OF TRIUMPHkMEDICAL MASKlONOCLEkNO GOOD GESTUREkOK GESTURE",
  "FACE WITH ONE EYEBROW RAISEDlPEN EYES AND HAND OVER MOUTHpMOUTHu AND COLD SWEATvVOMITING",
  "FACE WITH PARTY HORN AND PARTY HATlEEKING EYElLEADING EYESkROLLING EYESkSTUCK-OUT TONGUE",
  "FACE WITH STUCK-OUT TONGUE AND TIGHTLY-CLOSED EYESzgWINKING EYEkTEARS OF JOYlHERMOMETER",
  "FACE WITH UNEVEN EYES AND WAVY MOUTHjOUT MOUTHdSIMILE SIGNdTORYcIRYcLAFELdLEN LEAF",
  "FALLING DIAGONAL CROSSING NORTH EAST ARROWzbRISING DIAGONALrIN WHITE CIRCLE IN BLACK SQUARE",
  "FAMILYcRSI SYMBOLcTHER CHRISTMAScX ICONeMACHINEbEARFUL FACEdTHERcMALE SIGN",
  "FEMININE ORDINAL INDICATORcNCERcRRIS WHEELeYbFbIELD HOCKEY STICK AND BALLcGURE DASHhSPACE",
  "FILE CABINETfFOLDERfSEPARATORdM FRAMESfPROJECTORcNITE PART INTEGRALcREe ENGINEgXTINGUISHER",
  "FIRECRACKEReWORK SPARKLERiSdST PLACE MEDALgQUARTER MOONs SYMBOLtWITH FACEgSTRONG ISOLATEcSH",
  "FISH CAKE WITH SWIRL DESIGNeEYEeING POLE AND FISHdTED HAND SIGNcVE DOT MARKjPUNCTUATION",
  "FLAG IN HOLEdMINGOdT SHOEeBREADeNESScEUR-DE-LISdXED BICEPScOPPY DISKdRAL HEARTdWER",
  "FLOWER PLAYING CARDSiUNCTUATION MARKcUSHED FACEcYdING DISChENVELOPEhSAUCERbOGdGYcLDERcNDUEcOT",
  "FOOTPRINTScR ALLdCESdK AND KNIFEo WITH PLATEeED PARAGRAPHOSeINGdM FEEDdTUNE COOKIEcUNTAIN",
  "FOUR BALLOON-SPOKED ASTERISKfCLUB-SPOKED ASTERISKgORNER ARROWS CIRCLING ANTICLOCKWISEfDOT MARK",
  "FOUR DOT PUNCTUATIONfLEAF CLOVERfPOINTED BLACK STARfTEARDROP-SPOKED ASTERISKe-PER-EM SPACE",
  "FOURTH ROOTcX FACEbRACTION NUMERATOR ONEjSLASHdME WITH AN XlPICTURElTILEScEEZING FACE",
  "FRENCH FRANC SIGNjIEScIED SHRIMPcOG FACEdNT-FACING BABY CHICK",
  "FRONT-TILTED SHADOWED WHITE RIGHTWARDS ARROWdWNfING FACE WITH OPEN MOUTHbScIbUEL PUMPcLL BLOCK",
  "FULL MOON SYMBOLkWITH FACEfOUTER JOINfSTOPeWIDTH AMPERSANDlPOSTROPHElSTERISKkBROKEN BAR",
  "FULLWIDTH CENT SIGNlIRCUMFLEX ACCENTlOLONmMMAoERCIAL ATkDIGIT EIGHTqFIVErOURqNINEqONEqSEVENrIX",
  "FULLWIDTH DIGIT THREErWOqZEROlOLLAR SIGNkEQUALS SIGNlXCLAMATION MARKkFULL STOPkGRAVE ACCENT",
  "FULLWIDTH GREATER-THAN SIGNkHYPHEN-MINUSkLATIN CAPITAL LETTER AzgBzgCzgDzgEzgFzgGzgHzgIzgJzgK",
  "FULLWIDTH LATIN CAPITAL LETTER LzgMzgNzgOzgPzgQzgRzgSzgTzgUzgVzgWzgXzgYzgZqSMALL LETTER AzeBzeC",
  "FULLWIDTH LATIN SMALL LETTER DzeEzeFzeGzeHzeIzeJzeKzeLzeMzeNzeOzePzeQzeRzeSzeTzeUzeVzeWzeXzeY",
  "FULLWIDTH LATIN SMALL LETTER ZlEFT CURLY BRACKETpPARENTHESISpSQUARE BRACKETpWHITE PARENTHESIS",
  "FULLWIDTH LESS-THAN SIGNlOW LINEkMACRONkNOT SIGNlUMBER SIGNkPERCENT SIGNlLUS SIGNlOUND SIGN",
  "FULLWIDTH QUESTION MARKmOTATION MARKkREVERSE SOLIDUSlIGHT CURLY BRACKETqPARENTHESIS",
  "FULLWIDTH RIGHT SQUARE BRACKETqWHITE PARENTHESISkSEMICOLONlOLIDUSkTILDEkVERTICAL LINEkWON SIGN",
  "FULLWIDTH YEN SIGNcNCTION APPLICATIONdERAL URNcSEbVS1d2d3d4aGAME DIEcRLICbEARe WITH HANDLES",
  "GEAR WITHOUT HUBcM STONEdINIcNIEcOMETRIC PROPORTIONjALLY EQUAL TOrIVALENT TO",
  "GEORGIAN CAPITAL LETTER AENzNyBANyCANzHARzbINzILyDONyENyGANzHANyHAEzbRzEzIEzOEyINyJHANzILyKAN",
  "GEORGIAN CAPITAL LETTER KHARyLASyMANyNARyONyPARzHARyQARyRAEySANzHINyTANzbRyUNyVINyWEyXANyYNyZEN",
  "GEORGIAN CAPITAL LETTER ZHARjLETTER AENrINrNqBANqCANrHARsINrILqDONqELIFIrNqFIqGANrHANqHAEsR",
  "GEORGIAN LETTER HARD SIGNrErIErOEqINqJHANrILqKANrHARqLABIAL SIGNsSqMANqNARqONqPARrHARqQARqRAE",
  "GEORGIAN LETTER SANrHINqTANsRrURNED GANqUNqVINqWEqXANqYNqZENrHARjMTAVRULI CAPITAL LETTER AEN",
  "GEORGIAN MTAVRULI CAPITAL LETTER AINzjNziBANziCANzjHARzkINzjILziDONziELIFIzjNziFIziGANzjHAN",
  "GEORGIAN MTAVRULI CAPITAL LETTER HAEzkRzlD SIGNzjEzjIEzjOEziINziJHANzjILziKANzjHARziLABIAL SIGN",
  "GEORGIAN MTAVRULI CAPITAL LETTER LASziMANziNARziONziPARzjHARziQARziRAEziSANzjHINziTANzkR",
  "GEORGIAN MTAVRULI CAPITAL LETTER TURNED GANziUNziVINziWEziXANziYNziZENzjHARjPARAGRAPH SEPARATOR",
  "GEORGIAN SMALL LETTER AENxNwBANwCANxHARyINxILwDONwENwGANxHANwHAEyRxExIExOEwINwJHANxILwKANxHAR",
  "GEORGIAN SMALL LETTER LASwMANwNARwONwPARxHARwQARwRAEwSANxHINwTANyRwUNwVINwWEwXANwYNwZENxHAR",
  "GERMAN PENNY SIGNcTA MARKbHOSTbIMEL SYMBOLcRAFFE FACEdLeS SYMBOLbLAGOLITIC CAPITAL LETTER AZU",
  "GLAGOLITIC CAPITAL LETTER BIG YUSzcUKYzbCAUDATE CHRIVIzcHRIVIzbDJERVIzcOBROzcZELOzbFITAzcRITU",
  "GLAGOLITIC CAPITAL LETTER GLAGOLIzbHERUzbIzcNITIAL IZHEzcOTATED BIG YUSzjSMALL YUSzcZHEzeITSA",
  "GLAGOLITIC CAPITAL LETTER KAKOzbLATINATE MYSLITEzcJUDIJEzbMYSLITEzbNASHIzbONUzcTUzbPEzcOKOJI",
  "GLAGOLITIC CAPITAL LETTER RITSIzbSHAzdTAzfPICzcLOVOzcMALL YUSzk WITH TAILzcPIDERY HA",
  "GLAGOLITIC CAPITAL LETTER TROKUTASTI AzcSIzcVRIDOzbUKUzbVEDEzbYATIzcERIzeUzdSTUzcOzcUzbZEMLJA",
  "GLAGOLITIC CAPITAL LETTER ZHIVETElSMALL LETTER AZUyBIG YUSzUKYyCAUDATE CHRIVIzHRIVIyDJERVIzOBRO",
  "GLAGOLITIC SMALL LETTER DZELOyFITAzRITUyGLAGOLIyHERUyIzNITIAL IZHEzOTATED BIG YUSzhSMALL YUS",
  "GLAGOLITIC SMALL LETTER IZHEzcITSAyKAKOyLATINATE MYSLITEzJUDIJEyMYSLITEyNASHIyONUzTUyPEzOKOJI",
  "GLAGOLITIC SMALL LETTER RITSIySHAzbTAzdPICzLOVOzMALL YUSzi WITH TAILzPIDERY HAyTROKUTASTI AzSI",
  "GLAGOLITIC SMALL LETTER TVRIDOyUKUyVEDEyYATIzERIzcUzbSTUzOzUyZEMLJAzHIVETEdSS OF MILK",
  "GLEICH STARKcOBE WITH MERIDIANSdVESdWING STARbOAL NETdTcGGLEScLFERcRILLAcTHIC LETTER AHSApIHVUS",
  "GOTHIC LETTER BAIRKANoDAGSoEISoFAIHUoGIBAoHAGLpWAIRoIGGWSpUJAoJERoKUSMAoLAGUSoMANNAoNAUTHS",
  "GOTHIC LETTER NINE HUNDREDsTYoOTHALoPAIRTHRAoQAIRTHRAoRAIDAoSAUILoTEIWSpHIUTHoURUSoWINJA",
  "GRADUATION CAPdNTHA AU LENGTH MARKiLETTER AqAqIqUpBAqHApCAqHApDAqDArHAqHApEEpGAqHApHApIqIpJAqHA",
  "GRANTHA LETTER KAqHApLAqLApMApNAqGAqNAqYApOOpPAqHApRApSAqHAqSApTAqHAqTArHApUqUpVAqEDIC ANUSVARA",
  "GRANTHA LETTER VEDIC DOUBLE ANUSVARAqOCALIC LyLxRyRpYAiOMiSIGN ANUSVARAoVAGRAHAnCANDRABINDU",
  "GRANTHA SIGN COMBINING ANUSVARA ABOVEnNUKTAnPLUTAnVIRAMApSARGAiVOWEL SIGN AAuIuUtEEtIuItOOtUuU",
  "GRANTHA VOWEL SIGN VOCALIC LzdLzcRzdRdPESdVE ACCENT",
  "GREATER-THAN ABOVE DOUBLE-LINE EQUAL ABOVE LESS-THANtLESS-THAN ABOVE DOUBLE-LINE EQUAL",
  "GREATER-THAN ABOVE RIGHTWARDS ARROWtSIMILAR ABOVE LESS-THANzcOR EQUAL",
  "GREATER-THAN ABOVE SLANTED EQUAL ABOVE LESS-THAN ABOVE SLANTED EQUALoND NOT APPROXIMATE",
  "GREATER-THAN AND SINGLE-LINE NOT EQUAL TOnBESIDE LESS-THANoUT NOT EQUAL TOyIVALENT TO",
  "GREATER-THAN CLOSED BY CURVEzd ABOVE SLANTED EQUALnEQUAL TO OR LESS-THANnOR APPROXIMATE",
  "GREATER-THAN OR EQUAL TOtIVALENT TOqLESS-THANqSLANTED EQUAL TOzh WITH DOT ABOVEzw LEFTzrINSIDE",
  "GREATER-THAN OVER EQUAL TOrLAPPING LESS-THANnSIGNnWITH CIRCLE INSIDEsDOTsQUESTION MARK ABOVE",
  "GREEK ACROPHONIC ATTIC FIFTYzd STATERSzeTALENTSzfHOUSANDzm STATERSzVEzc HUNDREDzk STATERS",
  "GREEK ACROPHONIC ATTIC FIVE HUNDRED TALENTSzdSTATERSzdTALENTSzeHOUSANDzl TALENTSxONE DRACHMA",
  "GREEK ACROPHONIC ATTIC ONE HALFzdUNDRED STATERSzkTALENTSzcQUARTERzcTHOUSAND STATERSzlTALENTS",
  "GREEK ACROPHONIC ATTIC TEN MNASzcSTATERSzcTALENTSzdHOUSAND STATERSrCARYSTIAN FIVE HUNDRED",
  "GREEK ACROPHONIC CYRENAIC TWO DRACHMASrDELPHIC FIVE MNASrEPIDAUREAN FIVE HUNDREDzdTWO",
  "GREEK ACROPHONIC EPIDAUREAN TWO DRACHMASrHERAEUM ONE PLETHRONuMIONIAN FIFTYzdONEzdTEN",
  "GREEK ACROPHONIC MESSENIAN TENrNAXIAN FIVE HUNDREDrSTRATIAN FIFTY MNASrTHESPIAN FIFTY",
  "GREEK ACROPHONIC THESPIAN FIVE HUNDREDzgTHOUSANDzbONEze HUNDREDzfTHOUSANDzbTENzcHIRTY",
  "GREEK ACROPHONIC THESPIAN THREE HUNDREDzcWOsROEZENIAN FIFTYzi ALTERNATE FORMzfVEzh HUNDREDzdTEN",
  "GREEK ACROPHONIC TROEZENIAN TEN ALTERNATE FORMhNO TELEIAhROURA SIGNiTABE SIGNgBETA SYMBOL",
  "GREEK CAPITAL DOTTED LUNATE SIGMA SYMBOLoKAI SYMBOLoLETTER ALPHAzb WITH DASIAzm AND OXIA",
  "GREEK CAPITAL LETTER ALPHA WITH DASIA AND OXIA AND PROSGEGRAMMENIzrPERISPOMENI",
  "GREEK CAPITAL LETTER ALPHA WITH DASIA AND PERISPOMENI AND PROSGEGRAMMENIzsROSGEGRAMMENIzrVARIA",
  "GREEK CAPITAL LETTER ALPHA WITH DASIA AND VARIA AND PROSGEGRAMMENIzhMACRONzhOXIA",
  "GREEK CAPITAL LETTER ALPHA WITH PROSGEGRAMMENIziSILIzm AND OXIAzv AND PROSGEGRAMMENI",
  "GREEK CAPITAL LETTER ALPHA WITH PSILI AND PERISPOMENIzzd AND PROSGEGRAMMENIzsROSGEGRAMMENI",
  "GREEK CAPITAL LETTER ALPHA WITH PSILI AND VARIAzw AND PROSGEGRAMMENIzhTONOSzhVARIAziRACHY",
  "GREEK CAPITAL LETTER ARCHAIC SAMPIvBETAvCHIvDELTAvEPSILONzd WITH DASIAzo AND OXIAztVARIAzjOXIA",
  "GREEK CAPITAL LETTER EPSILON WITH PSILIzo AND OXIAztVARIAzjTONOSzjVARIAwTAy WITH DASIA",
  "GREEK CAPITAL LETTER ETA WITH DASIA AND OXIAzt AND PROSGEGRAMMENIzpPERISPOMENI",
  "GREEK CAPITAL LETTER ETA WITH DASIA AND PERISPOMENI AND PROSGEGRAMMENIzqROSGEGRAMMENIzpVARIA",
  "GREEK CAPITAL LETTER ETA WITH DASIA AND VARIA AND PROSGEGRAMMENIzfOXIAzfPROSGEGRAMMENIzgSILI",
  "GREEK CAPITAL LETTER ETA WITH PSILI AND OXIAzt AND PROSGEGRAMMENIzpPERISPOMENI",
  "GREEK CAPITAL LETTER ETA WITH PSILI AND PERISPOMENI AND PROSGEGRAMMENIzqROSGEGRAMMENIzpVARIA",
  "GREEK CAPITAL LETTER ETA WITH PSILI AND VARIA AND PROSGEGRAMMENIzfTONOSzfVARIAvGAMMAvHETAvIOTA",
  "GREEK CAPITAL LETTER IOTA WITH DASIAzl AND OXIAzqPERISPOMENIzqVARIAzhIALYTIKAzgMACRONzgOXIA",
  "GREEK CAPITAL LETTER IOTA WITH PSILIzl AND OXIAzqPERISPOMENIzqVARIAzgTONOSzgVARIAzhRACHYvKAPPA",
  "GREEK CAPITAL LETTER LAMDAvMUvNUvOMEGAzb WITH DASIAzm AND OXIAzv AND PROSGEGRAMMENI",
  "GREEK CAPITAL LETTER OMEGA WITH DASIA AND PERISPOMENIzzd AND PROSGEGRAMMENIzsROSGEGRAMMENI",
  "GREEK CAPITAL LETTER OMEGA WITH DASIA AND VARIAzw AND PROSGEGRAMMENIzhOXIAzhPROSGEGRAMMENI",
  "GREEK CAPITAL LETTER OMEGA WITH PSILIzm AND OXIAzv AND PROSGEGRAMMENIzrPERISPOMENI",
  "GREEK CAPITAL LETTER OMEGA WITH PSILI AND PERISPOMENI AND PROSGEGRAMMENIzsROSGEGRAMMENIzrVARIA",
  "GREEK CAPITAL LETTER OMEGA WITH PSILI AND VARIA AND PROSGEGRAMMENIzhTONOSzhVARIAxICRON",
  "GREEK CAPITAL LETTER OMICRON WITH DASIAzo AND OXIAztVARIAzjOXIAzjPSILIzo AND OXIAztVARIAzjTONOS",
  "GREEK CAPITAL LETTER OMICRON WITH VARIAvPAMPHYLIAN DIGAMMAwHIwIwSIvRHOy WITH DASIAvSANwHOwIGMA",
  "GREEK CAPITAL LETTER TAUwHETAvUPSILONzd WITH DASIAzo AND OXIAztPERISPOMENIztVARIAzkIALYTIKA",
  "GREEK CAPITAL LETTER UPSILON WITH MACRONzjOXIAzjTONOSzjVARIAzkRACHYvXIvYOTvZETA",
  "GREEK CAPITAL LUNATE SIGMA SYMBOLoREVERSED DOTTED LUNATE SIGMA SYMBOLxLUNATE SIGMA SYMBOL",
  "GREEK CAPITAL THETA SYMBOLgDASIAl AND OXIAqPERISPOMENIqVARIAhIALYTIKA AND OXIAuPERISPOMENI",
  "GREEK DIALYTIKA AND VARIAqTONOShRACHMA SIGNgFIVE OBOLS SIGNhOUR OBOLS SIGNgGRAMMA SIGN",
  "GREEK INDICTION SIGNiSTRUMENTAL NOTATION SYMBOL-1zl1zl2zl3zl4zl7zl8zl9zk2zl3zl4zl5zl6zl7zl9zk30",
  "GREEK INSTRUMENTAL NOTATION SYMBOL-32zl6zl7zl8zl9zk4zl0zl2zl3zl5zl7zl8zl9zk5zl0zl1zl2zl3zl4zk7",
  "GREEK INSTRUMENTAL NOTATION SYMBOL-8gKAI SYMBOLiPPA SYMBOLhORONIShYATHOS BASE SIGN",
  "GREEK LETTER ARCHAIC KOPPAnDIGAMMAnKOPPAnSAMPIoMALL CAPITAL GAMMAzcLAMDAzcOMEGAzcPIzdSIzcRHO",
  "GREEK LETTER STIGMAnYOThITRA SIGNhOWER NUMERAL SIGNhUNATE EPSILON SYMBOLnSIGMA SYMBOL",
  "GREEK METRETES SIGNhUSICAL LEIMMAgNUMERAL SIGNgOBOL SIGNhNE HALF SIGNt ALTERNATE FORM",
  "GREEK ONE QUARTER SIGNhUNKIA SIGNhXIAgPERISPOMENIhHI SYMBOLhI SYMBOLhROSGEGRAMMENIhSILI",
  "GREEK PSILI AND OXIAqPERISPOMENIqVARIAgQUESTION MARKgREVERSED LUNATE EPSILON SYMBOLhHO SYMBOL",
  "GREEK RHO WITH STROKE SYMBOLgSINUSOID SIGNhMALL DOTTED LUNATE SIGMA SYMBOLmLETTER ALPHA",
  "GREEK SMALL LETTER ALPHA WITH DASIAzk AND OXIAzt AND YPOGEGRAMMENIzpPERISPOMENI",
  "GREEK SMALL LETTER ALPHA WITH DASIA AND PERISPOMENI AND YPOGEGRAMMENIzpVARIA",
  "GREEK SMALL LETTER ALPHA WITH DASIA AND VARIA AND YPOGEGRAMMENIzpYPOGEGRAMMENIzfMACRONzfOXIA",
  "GREEK SMALL LETTER ALPHA WITH OXIA AND YPOGEGRAMMENIzfPERISPOMENIzq AND YPOGEGRAMMENIzgSILI",
  "GREEK SMALL LETTER ALPHA WITH PSILI AND OXIAzt AND YPOGEGRAMMENIzpPERISPOMENI",
  "GREEK SMALL LETTER ALPHA WITH PSILI AND PERISPOMENI AND YPOGEGRAMMENIzpVARIA",
  "GREEK SMALL LETTER ALPHA WITH PSILI AND VARIA AND YPOGEGRAMMENIzpYPOGEGRAMMENIzfTONOSzfVARIA",
  "GREEK SMALL LETTER ALPHA WITH VARIA AND YPOGEGRAMMENIzgRACHYzfYPOGEGRAMMENIuRCHAIC KOPPAzcSAMPI",
  "GREEK SMALL LETTER BETAtCHItDELTAuIGAMMAtEPSILONzb WITH DASIAzm AND OXIAzrVARIAzhOXIAzhPSILI",
  "GREEK SMALL LETTER EPSILON WITH PSILI AND OXIAzrVARIAzhTONOSzhVARIAuTAw WITH DASIAzi AND OXIA",
  "GREEK SMALL LETTER ETA WITH DASIA AND OXIA AND YPOGEGRAMMENIznPERISPOMENIzy AND YPOGEGRAMMENI",
  "GREEK SMALL LETTER ETA WITH DASIA AND VARIAzs AND YPOGEGRAMMENIznYPOGEGRAMMENIzdOXIA",
  "GREEK SMALL LETTER ETA WITH OXIA AND YPOGEGRAMMENIzdPERISPOMENIzo AND YPOGEGRAMMENIzeSILI",
  "GREEK SMALL LETTER ETA WITH PSILI AND OXIAzr AND YPOGEGRAMMENIznPERISPOMENIzy AND YPOGEGRAMMENI",
  "GREEK SMALL LETTER ETA WITH PSILI AND VARIAzs AND YPOGEGRAMMENIznYPOGEGRAMMENIzdTONOSzdVARIA",
  "GREEK SMALL LETTER ETA WITH VARIA AND YPOGEGRAMMENIzdYPOGEGRAMMENItFINAL SIGMAtGAMMAtHETAtIOTA",
  "GREEK SMALL LETTER IOTA WITH DASIAzj AND OXIAzoPERISPOMENIzoVARIAzfIALYTIKAzn AND OXIA",
  "GREEK SMALL LETTER IOTA WITH DIALYTIKA AND PERISPOMENIzsTONOSzsVARIAzeMACRONzeOXIAzePERISPOMENI",
  "GREEK SMALL LETTER IOTA WITH PSILIzj AND OXIAzoPERISPOMENIzoVARIAzeTONOSzeVARIAzfRACHYtKAPPA",
  "GREEK SMALL LETTER KOPPAtLAMDAtMUtNUtOMEGAy WITH DASIAzk AND OXIAzt AND YPOGEGRAMMENI",
  "GREEK SMALL LETTER OMEGA WITH DASIA AND PERISPOMENIzzb AND YPOGEGRAMMENIzpVARIA",
  "GREEK SMALL LETTER OMEGA WITH DASIA AND VARIA AND YPOGEGRAMMENIzpYPOGEGRAMMENIzfOXIA",
  "GREEK SMALL LETTER OMEGA WITH OXIA AND YPOGEGRAMMENIzfPERISPOMENIzq AND YPOGEGRAMMENIzgSILI",
  "GREEK SMALL LETTER OMEGA WITH PSILI AND OXIAzt AND YPOGEGRAMMENIzpPERISPOMENI",
  "GREEK SMALL LETTER OMEGA WITH PSILI AND PERISPOMENI AND YPOGEGRAMMENIzpVARIA",
  "GREEK SMALL LETTER OMEGA WITH PSILI AND VARIA AND YPOGEGRAMMENIzpYPOGEGRAMMENIzfTONOSzfVARIA",
  "GREEK SMALL LETTER OMEGA WITH VARIA AND YPOGEGRAMMENIzfYPOGEGRAMMENIvICRONzb WITH DASIA",
  "GREEK SMALL LETTER OMICRON WITH DASIA AND OXIAzrVARIAzhOXIAzhPSILIzm AND OXIAzrVARIAzhTONOS",
  "GREEK SMALL LETTER OMICRON WITH VARIAtPAMPHYLIAN DIGAMMAuHIuIuSItRHOw WITH DASIAzdPSILItSAMPIvN",
  "GREEK SMALL LETTER SHOuIGMAuTIGMAtTAUuHETAtUPSILONzb WITH DASIAzm AND OXIAzrPERISPOMENIzrVARIA",
  "GREEK SMALL LETTER UPSILON WITH DIALYTIKAzq AND OXIAzvPERISPOMENIzvTONOSzvVARIAzhMACRONzhOXIA",
  "GREEK SMALL LETTER UPSILON WITH PERISPOMENIziSILIzm AND OXIAzrPERISPOMENIzrVARIAzhTONOSzhVARIA",
  "GREEK SMALL LETTER UPSILON WITH VRACHYtXItZETAmREVERSED DOTTED LUNATE SIGMA SYMBOL",
  "GREEK SMALL REVERSED LUNATE SIGMA SYMBOLhUBSCRIPT SMALL LETTER BETAzeCHIzeGAMMAzePHIzeRHO",
  "GREEK SYMBOL TAU RHOgTALENT SIGNhHETA SYMBOLiREE OBOLS SIGNmQUARTERS SIGNhONOS",
  "GREEK TRYBLION BASE SIGNhWO OBOLS SIGNkTHIRDS SIGNgUPSILON WITH ACUTE AND HOOK SYMBOL",
  "GREEK UPSILON WITH DIAERESIS AND HOOK SYMBOLtHOOK SYMBOLgVARIAhOCAL NOTATION SYMBOL-1ze0ze1ze2",
  "GREEK VOCAL NOTATION SYMBOL-13ze4ze5ze6ze7ze8ze9zd2ze0ze1ze2ze3ze4zd3zd4zd5ze0ze1ze2ze3ze4zd6",
  "GREEK VOCAL NOTATION SYMBOL-7zd8zd9gXESTES SIGNgYEAR SIGNhPOGEGRAMMENIgZERO SIGNeN APPLEgBOOK",
  "GREEN HEARTgSALADcIMACING FACEdNNING CAT FACE WITH SMILING EYESjFACE",
  "GRINNING FACE WITH ONE LARGE AND ONE SMALL EYEtSMILING EYESuTAR EYEScOUP MARKgSEPARATOR",
  "GROWING HEARTbSbUARANI SIGNeDSMANcIDE DOGdTARcJARATI ABBREVIATION SIGNjDIGIT EIGHTpFIVEqOUR",
  "GUJARATI DIGIT NINEpONEpSEVENqIXpTHREEqWOpZEROjLETTER ArArIrUqBArHAqCArHAqDArDAsHArHAqEqGArHA",
  "GUJARATI LETTER HAqIrIqJArHAqKArHAqLArLAqMAqNArGArNArYAqOqPArHAqRAqSArHArSAqTArHArTAsHAqUrUqVA",
  "GUJARATI LETTER VOCALIC LzLyRzRqYAqZHAjOMjRUPEE SIGNjSIGN ANUSVARApVAGRAHAoCANDRABINDU",
  "GUJARATI SIGN CIRCLE NUKTA ABOVEoMADDAHoNUKTAoSHADDApUKUNoTHREE-DOT NUKTA ABOVE",
  "GUJARATI SIGN TWO-CIRCLE NUKTA ABOVEoVIRAMAqSARGAjVOWEL CANDRA EwOpSIGN AAvIvUuCANDRA EzcOuEuI",
  "GUJARATI VOWEL SIGN IIuOuUvUuVOCALIC LzeLzdRzeRcNJALA GONDI DIGIT EIGHTuFIVEvOURuNINEuONEuSEVEN",
  "GUNJALA GONDI DIGIT SIXuTHREEvWOuZEROoLETTER AwAwIwUvBAwHAvCAwHAvDAwDAxHAwHAvEEvGAwHAvHAvIwIvJA",
  "GUNJALA GONDI LETTER JHAvKAwHAvLAwLAvMAvNAwGAvOOvPAwHAvRAvSAvTAwHAwTAxHAvUwUvVAvYAoOM",
  "GUNJALA GONDI SIGN ANUSVARAtVISARGAoVIRAMApOWEL SIGN AAzbIzbUzEEzIzbIzOOzUzbU",
  "GURMUKHI ABBREVIATION SIGNkDDAKjDIGIT EIGHTpFIVEqOURpNINEpONEpSEVENqIXpTHREEqWOpZEROjEK ONKAR",
  "GURMUKHI IRIjLETTER ArArIrUqBArHAqCArHAqDArDAsHArHAqEEqFAqGArHAsHAqHAqIrIqJArHAqKArHAsHAqLArLA",
  "GURMUKHI LETTER MAqNArGArNArYAqOOqPArHAqRArRAqSArHAqTArHArTAsHAqUrUqVAqYAqZAjSIGN ADAK BINDI",
  "GURMUKHI SIGN BINDIoNUKTAoUDAAToVIRAMAqSARGAoYAKASHjTIPPIjURAjVOWEL SIGN AAvIvUuEEuIvIuOOuUvU",
  "HADEScIR SPACEeCUTcLFWIDTH BLACK SQUAREkDOWNWARDS ARROWkFORMS LIGHT VERTICALkHANGUL FILLER",
  "HALFWIDTH HANGUL LETTER AzEyCHIEUCHzIEUCyEzOzUyHIEUHyIzEUNGyKHIEUKHzIYEOKzf-SIOSyMIEUMyNIEUN",
  "HALFWIDTH HANGUL LETTER NIEUN-CIEUCzfHIEUHyOzEyPHIEUPHzIEUPze-SIOSyRIEULze-HIEUHzfKIYEOKzfMIEUM",
  "HALFWIDTH HANGUL LETTER RIEUL-PHIEUPHzgIEUPzfSIOSzfTHIEUTHySIOSzSANGCIEUCzeKIYEOKzePIEUPzeSIOS",
  "HALFWIDTH HANGUL LETTER SSANGTIKEUTyTHIEUTHzIKEUTyUyWAzbEzEzbOzIyYAzbEzEzbOzIzOzU",
  "HALFWIDTH IDEOGRAPHIC COMMAwFULL STOPkKATAKANA LETTER AzbEzbHAzcEzcIzcOzcUzbIzbKAzcEzcIzcOzcU",
  "HALFWIDTH KATAKANA LETTER MAzcEzcIzcOzcUzbNzcAzcEzcIzcOzcUzbOzbRAzcEzcIzcOzcUzbSAzcEzcIzcMALL A",
  "HALFWIDTH KATAKANA LETTER SMALL EzhIzhOzhTUzhUzhYAziOziUzcOzcUzbTAzcEzcIzcOzcUzbUzbWAzcOzbYAzcO",
  "HALFWIDTH KATAKANA LETTER YUtMIDDLE DOTtSEMI-VOICED SOUND MARKtVOICED SOUND MARK",
  "HALFWIDTH KATAKANA-HIRAGANA PROLONGED SOUND MARKkLEFT CORNER BRACKEToWARDS ARROW",
  "HALFWIDTH RIGHT CORNER BRACKETpWARDS ARROWkUPWARDS ARROWkWHITE CIRCLEcMBURGERdMERg AND PICK",
  "HAMMER AND SICKLElWRENCHdSAeTER FACEcND WITH INDEX AND MIDDLE FINGERS CROSSED",
  "HAND WITH INDEX FINGER AND THUMB CROSSEDeBAGgLLeSHAKEdGUL CHOSEONG CEONGCHIEUMCHIEUCHzdIEUC",
  "HANGUL CHOSEONG CEONGCHIEUMSIOSzdSANGCIEUCzhSIOSrHIEUCHx-HIEUHyKHIEUKHtTUEUMCHIEUCHzIEUCySIOS",
  "HANGUL CHOSEONG CHITUEUMSSANGCIEUCzeSIOSrIEUCv-IEUNGqFILLERqHIEUHv-SIOSqIEUNGv-CHIEUCHxIEUC",
  "HANGUL CHOSEONG IEUNG-HIEUHwKIYEOKwMIEUMwPANSIOSxHIEUPHxIEUPwRIEULwSIOSwTHIEUTHxIKEUT",
  "HANGUL CHOSEONG KAPYEOUNMIEUMyPHIEUPHzIEUPyRIEULySSANGPIEUPrHIEUKHrIYEOKw-TIKEUTqMIEUMv-KIYEOK",
  "HANGUL CHOSEONG MIEUM-PIEUPwSIOSwTIKEUTqNIEUNv-CIEUCwHIEUHwKIYEOKwPIEUPwSIOSwTIKEUTqPANSIOS",
  "HANGUL CHOSEONG PHIEUPHx-HIEUHyPIEUPrIEUPv-CHIEUCHxIEUCwHIEUHwKHIEUKHxIYEOKwNIEUNwPHIEUPHwSIOS",
  "HANGUL CHOSEONG PIEUP-SIOS-CIEUCzcKIYEOKzcPIEUPzcTHIEUTHzdIKEUTxSANGSIOSwTHIEUTHxIKEUTqRIEUL",
  "HANGUL CHOSEONG RIEUL-CIEUCwHIEUHwKAPYEOUNPIEUPxHIEUKHxIYEOKwMIEUMwNIEUNwPIEUPwSIOSxSANGKIYEOK",
  "HANGUL CHOSEONG RIEUL-SSANGPIEUPzcTIKEUTwTIKEUTqSIOSu-CHIEUCHwIEUCvHIEUHvIEUNGvKHIEUKHwIYEOK",
  "HANGUL CHOSEONG SIOS-MIEUMvNIEUNvPHIEUPHwIEUPzb-KIYEOKvRIEULvSSANGSIOSvTHIEUTHwIKEUTrSANGCIEUC",
  "HANGUL CHOSEONG SSANGCIEUC-HIEUHvHIEUHvIEUNGvKIYEOKvNIEUNvPIEUPvRIEULvSIOSz-PIEUPvTHIEUTHwIKEUT",
  "HANGUL CHOSEONG SSANGYEORINHIEUHqTHIEUTHrIKEUTw-CIEUCxKIYEOKxMIEUMxPIEUPxRIEULxSIOSqYEORINHIEUH",
  "HANGUL CHOSEONG YESIEUNGhDOUBLE DOT TONE MARKhFILLERhJONGSEONG CHIEUCHsIEUCw-PIEUPxSSANGPIEUP",
  "HANGUL JONGSEONG HIEUHw-MIEUMxNIEUNxPIEUPxRIEULrIEUNGw-KHIEUKHyIYEOKxSSANGKIYEOKrKAPYEOUNMIEUM",
  "HANGUL JONGSEONG KAPYEOUNPHIEUPHzbIEUPzRIEULsHIEUKHsIYEOKx-CHIEUCHyHIEUHyKHIEUKHyNIEUNyPIEUP",
  "HANGUL JONGSEONG KIYEOK-RIEULySIOSzd-KIYEOKrMIEUMw-CHIEUCHyIEUCxHIEUHxKIYEOKxNIEUNxPANSIOSyIEUP",
  "HANGUL JONGSEONG MIEUM-PIEUP-SIOSxRIEULxSIOSySANGNIEUNzdSIOSrNIEUNw-CHIEUCHyIEUCxHIEUHxKIYEOK",
  "HANGUL JONGSEONG NIEUN-PANSIOSxRIEULxSIOSxTHIEUTHyIKEUTrPANSIOSy-KAPYEOUNPIEUPzPIEUPsHIEUPH",
  "HANGUL JONGSEONG PHIEUPH-PIEUPzSIOSzTHIEUTHsIEUPw-CHIEUCHyIEUCxHIEUHxMIEUMxPHIEUPHxRIEUL",
  "HANGUL JONGSEONG PIEUP-RIEUL-PHIEUPHxSIOSzc-TIKEUTxTIKEUTrRIEULw-HIEUHxKAPYEOUNPIEUPyHIEUKH",
  "HANGUL JONGSEONG RIEUL-KIYEOKze-HIEUHzfSIOSxMIEUMzd-HIEUHzeKIYEOKzeSIOSxNIEUNxPANSIOSyHIEUPH",
  "HANGUL JONGSEONG RIEUL-PIEUPzd-HIEUHzePHIEUPHzeSIOSzeTIKEUTxSIOSySANGKIYEOKzdSIOSxTHIEUTHyIKEUT",
  "HANGUL JONGSEONG RIEUL-TIKEUT-HIEUHxYEORINHIEUHzj-HIEUHzSIEUNGrSIOSv-CHIEUCHxIEUCwHIEUH",
  "HANGUL JONGSEONG SIOS-KAPYEOUNPIEUPxIYEOKwMIEUMwPANSIOSxIEUPwRIEULwTHIEUTHxIKEUTsSANGCIEUC",
  "HANGUL JONGSEONG SSANGIEUNGwKIYEOKwMIEUMwNIEUNwPIEUPwRIEULzc-KHIEUKHwSIOSzb-KIYEOKzcTIKEUT",
  "HANGUL JONGSEONG SSANGTIKEUTzd-PIEUPwYESIEUNGrTHIEUTHsIKEUTx-CHIEUCHzIEUCyKIYEOKyPIEUPyRIEUL",
  "HANGUL JONGSEONG TIKEUT-SIOSzd-KIYEOKyTHIEUTHrYEORINHIEUHtSIEUNGz-HIEUHzbKHIEUKHzcIYEOKzbMIEUM",
  "HANGUL JONGSEONG YESIEUNG-PANSIOSzbSIOSzcSANGKIYEOKiUNGSEONG As-EUtOtUsEsRAEAw-AxEyOxIxUrEsO",
  "HANGUL JUNGSEONG EO-EUuOuUsUt-AuEvOvUuOuUrFILLERrIs-AuRAEAtEUtItOu-ItUtYAv-OvEuEvOuOuUrOs-EuOtO",
  "HANGUL JUNGSEONG O-O-ItUtYAvEuEvOsErSSANGARAEArUs-AuEtEO-EUtI-ItUtYEvOrWAtEsEtOsIrYAt-OuUuYOtE",
  "HANGUL JUNGSEONG YEtOu-OvUvYAsIt-UsOt-AvEuEOuIuOuYAwEvEOsUt-AvEuEvOuIuOuUuYEwOhLETTER ApEpRAEA",
  "HANGUL LETTER ARAEAEoCHIEUCHpIEUCoEpOpUoHIEUHoIpEUNGoKAPYEOUNMIEUMwPHIEUPHxIEUPwSSANGPIEUP",
  "HANGUL LETTER KHIEUKHpIYEOKu-SIOSoMIEUMt-PANSIOSvIEUPuSIOSoNIEUNt-CIEUCuHIEUHuPANSIOSuSIOS",
  "HANGUL LETTER NIEUN-TIKEUToOpEoPANSIOSpHIEUPHpIEUPt-CIEUCuKIYEOKuSIOSy-KIYEOKzTIKEUTuTHIEUTH",
  "HANGUL LETTER PIEUP-TIKEUToRIEULt-HIEUHuKIYEOKzb-SIOSuMIEUMuPANSIOSvHIEUPHvIEUPz-SIOSuSIOS",
  "HANGUL LETTER RIEUL-THIEUTHvIKEUTuYEORINHIEUHoSIOSs-CIEUCtKIYEOKtNIEUNtPIEUPtTIKEUTpSANGCIEUC",
  "HANGUL LETTER SSANGHIEUHtIEUNGtKIYEOKtNIEUNtPIEUPtSIOStTIKEUToTHIEUTHpIKEUToUoWAqEpEqOpIoYAqEpE",
  "HANGUL LETTER YEOrRINHIEUHqSIEUNGw-PANSIOSxSIOSpIpOq-IrYAtEpUq-IrYEtOhSINGLE DOT TONE MARK",
  "HANGZHOU NUMERAL EIGHTrFIVEsOURrNINErONErSEVENsIXrTENsHIRTYtREEsWENTYtO",
  "HANIFI ROHINGYA DIGIT EIGHTwFIVExOURwNINEwONEwSEVENxIXwTHREExWOwZEROqLETTER AxBAxCAxDAyDAxFAxGA",
  "HANIFI ROHINGYA LETTER HAxJAxKAyHAyINNA WAzeYAxLAxMAxNAyGAyYAxPAxRAyRAxSAyHAxTAyTAxVAxWAxYAxZA",
  "HANIFI ROHINGYA MARK NA KHONNAvSAKINqSIGN HARBAHAYvTAHALAxNAxSSIqVOWEL AwEwIwOwUdUNOO LETTER A",
  "HANUNOO LETTER BApDApGApHApIpKApLApMApNAqGApPApRApSApTApUpWApYAiSIGN PAMUDPODiVOWEL SIGN ItU",
  "HAPPY PERSON RAISING ONE HANDcRD DISKcTCHING CHICKdRAN LETTER ALEPHpYNoBETHoDALETH-RESHoGIMEL",
  "HATRAN LETTER HEqTHoKAPHoLAMEDHoMEMoNUNoPEoQOPHoSADHEqMEKHpHINoTAWpETHoWAWoYODHoZAYN",
  "HATRAN NUMBER FIVEoONEr HUNDREDoTENpWENTYbEADPHONEeSTONEj GRAVEYARD SYMBOLdR-NO-EVIL MONKEY",
  "HEART DECORATIONgHANDSgWITH ARROWlRIBBONlTIP ON THE LEFTdVY AMPERSAND ORNAMENT",
  "HEAVY ARROW SHAFT WIDTH ONEzc HALFzdTHIRDyTWO THIRDShSTERISKgBALLOT X",
  "HEAVY BLACK CURVED DOWNWARDS AND RIGHTWARDS ARROWtUPWARDS AND RIGHTWARDS ARROWmHEART",
  "HEAVY BLACK-FEATHERED NORTH EAST ARROWwRIGHTWARDS ARROWwSOUTH EAST ARROWgCHECK MARK",
  "HEAVY CHEVRON SNOWFLAKEhIRCLEm WITH CIRCLE INSIDEsSTROKE AND TWO DOTS ABOVEmD SALTIRE",
  "HEAVY CONCAVE-POINTED BLACK RIGHTWARDS ARROWgDASHED TRIANGLE-HEADED RIGHTWARDS ARROW",
  "HEAVY DIVISION SIGNhOLLAR SIGNiUBLE COMMA QUOTATION MARK ORNAMENT",
  "HEAVY DOUBLE TURNED COMMA QUOTATION MARK ORNAMENTiWNWARDS ARROW WITH EQUILATERAL ARROWHEAD",
  "HEAVY DOWNWARDS ARROW WITH LARGE EQUILATERAL ARROWHEADgEIGHT POINTED BLACK STARuPINWHEEL STAR",
  "HEAVY EIGHT POINTED RECTILINEAR BLACK STARmSPOKED ASTERISKmTEARDROP-SPOKED PROPELLER ASTERISK",
  "HEAVY EQUALS SIGNhXCLAMATION MARK ORNAMENTxSYMBOLgFIVE POINTED BLACK STARlSPOKED ASTERISK",
  "HEAVY FOUR BALLOON-SPOKED ASTERISKgGREEK CROSSgHEART EXCLAMATION MARK ORNAMENThORIZONTAL FILL",
  "HEAVY INTERROBANG ORNAMENTgLARGE CIRCLEiTIN CROSShEFT-POINTING ANGLE BRACKET ORNAMENT",
  "HEAVY LEFT-POINTING ANGLE QUOTATION MARK ORNAMENTkWARDS ARROW WITH EQUILATERAL ARROWHEAD",
  "HEAVY LEFTWARDS ARROW WITH LARGE EQUILATERAL ARROWHEADhIGATURE OPEN ET ORNAMENT",
  "HEAVY LOW DOUBLE COMMA QUOTATION MARK ORNAMENTkSINGLE COMMA QUOTATION MARK ORNAMENT",
  "HEAVY LOWER RIGHT-SHADOWED WHITE RIGHTWARDS ARROWgMINUS SIGNhULTIPLICATION XgNORTH EAST ARROW",
  "HEAVY NORTH EAST POINTING BUDzbVINE LEAFmWEST POINTING BUDzbVINE LEAFgOPEN CENTRE CROSS",
  "HEAVY OUTLINED BLACK STARhVAL WITH OVAL INSIDEgPLUS SIGNgRIGHT-POINTING ANGLE BRACKET ORNAMENT",
  "HEAVY RIGHT-POINTING ANGLE QUOTATION MARK ORNAMENTlWARDS ARROWw WITH EQUILATERAL ARROWHEAD",
  "HEAVY RIGHTWARDS ARROW WITH LARGE EQUILATERAL ARROWHEADhOUND-TIPPED RIGHTWARDS ARROWgSALTIRE",
  "HEAVY SANS-SERIF INTERROBANG ORNAMENThCRIPT LIGATURE ET ORNAMENT",
  "HEAVY SINGLE COMMA QUOTATION MARK ORNAMENTnTURNED COMMA QUOTATION MARK ORNAMENT",
  "HEAVY SIX POINTED BLACK STARkSPOKED ASTERISKhOUTH EAST ARROWrPOINTING BUDzbVINE LEAF",
  "HEAVY SOUTH WEST POINTING BUDzbVINE LEAFhPARKLEgTEARDROP-SHANKED RIGHTWARDS ARROW",
  "HEAVY TEARDROP-SPOKED ASTERISKwPINWHEEL ASTERISKhRIANGLE-HEADED RIGHTWARDS ARROW",
  "HEAVY TWELVE POINTED BLACK STARvPINWHEEL STARgUPPER RIGHT-SHADOWED WHITE RIGHTWARDS ARROW",
  "HEAVY UPWARDS ARROW WITH EQUILATERAL ARROWHEADzLARGE EQUILATERAL ARROWHEADgVERTICAL BAR",
  "HEAVY WEDGE-TAILED RIGHTWARDS ARROWhHITE CIRCLEmDOWN-POINTING TRIANGLEmSQUARE",
  "HEAVY WIDE-HEADED RIGHTWARDS ARROWcBREW ACCENT ATNAH HAFUKHoDARGApEHIoETNAHTAoGERESHu MUQDAM",
  "HEBREW ACCENT GERSHAYIMoILUYoMAHAPAKHpERKHAu KEFULApUNAHoOLEoPASHTAqZERoQADMAqRNEY PARAoREVIA",
  "HEBREW ACCENT SEGOLpHALSHELEToTELISHA GEDOLAwQETANAqVIRpIPEHAoYERAH BEN YOMOqTIVoZAQEF GADOL",
  "HEBREW ACCENT ZAQEF QATANqRQApINORhLETTER ALEFs WITH MAPIQyPATAHyQAMATSqTERNATIVE AYIN",
  "HEBREW LETTER ALTERNATIVE PLUS SIGNpYINoBETr WITH DAGESHxRAFEoDALETt WITH DAGESHoFINAL KAF",
  "HEBREW LETTER FINAL KAF WITH DAGESHuMEMuNUNuPEw WITH DAGESHuTSADIoGIMELt WITH DAGESHoHE",
  "HEBREW LETTER HE WITH MAPIQqToKAFr WITH DAGESHxRAFEoLAMEDt WITH DAGESHoMEMr WITH DAGESHoNUN",
  "HEBREW LETTER NUN WITH DAGESHoPEq WITH DAGESHwRAFEoQOFr WITH DAGESHoRESHs WITH DAGESHoSAMEKH",
  "HEBREW LETTER SAMEKH WITH DAGESHpHINs WITH DAGESHzf AND SHIN DOTzlIN DOTySHIN DOTzIN DOToTAV",
  "HEBREW LETTER TAV WITH DAGESHpETr WITH DAGESHpSADIt WITH DAGESHoVAVr WITH DAGESHxHOLAM",
  "HEBREW LETTER WIDE ALEFtDALETtFINAL MEMtHEtKAFtLAMEDtRESHtTAVoYODr WITH DAGESHxHIRIQoZAYIN",
  "HEBREW LETTER ZAYIN WITH DAGESHiIGATURE ALEF LAMEDqYIDDISH DOUBLE VAVzgYODyVAV YOD",
  "HEBREW LIGATURE YIDDISH YOD YOD PATAHhMARK LOWER DOTmMASORA CIRCLEmUPPER DOT",
  "HEBREW POINT DAGESH OR MAPIQnHATAF PATAHtQAMATStSEGOLoIRIQoOLAMs HASER FOR VAV",
  "HEBREW POINT JUDEO-SPANISH VARIKAnMETEGnPATAHnQAMATSt QATANoUBUTSnRAFEnSEGOLoHEVApIN DOToIN DOT",
  "HEBREW POINT TSEREiUNCTUATION GERESHwSHAYIMtMAQAFtNUN HAFUKHAtPASEQtSOF PASUQhYOD TRIANGLE",
  "HEDGEHOGcLICOPTERdLSCHREIBER PAUSE SYMBOLdM SYMBOLeET WITH WHITE CROSScNTAIGANA LETTER A-1u2u3",
  "HENTAIGANA LETTER A-WOsE-1u2u3u4u5u6sHA-1w0w1v2v3v4v5v6v7v8v9tE-1v2v3v4v5v6v7tI-1v2v3v4v5v6v7",
  "HENTAIGANA LETTER HO-1v2v3v4v5v6v7v8tU-1v2v3sI-1u2u3u4sKA-1w0w1v2v3v4v5v6v7v8v9vKEtE-1v2v3v4v5",
  "HENTAIGANA LETTER KE-6tI-1v2v3v4v5v6v7v8tO-1v2v3vKItU-1v2v3v4v5v6v7sMA-1v2v3v4v5v6v7tE-1v2vMA",
  "HENTAIGANA LETTER MI-1v2v3v4v5v6v7tO-1v2v3v4v5v6tU-1v2v3v4sN-MU-MO-1zb2tA-1v2v3v4v5v6v7v8v9tE-1",
  "HENTAIGANA LETTER NE-2v3v4v5v6vKOtI-1v2v3v4v5v6v7vTEtO-1v2v3v4v5tU-1v2v3sO-1u2u3sRA-1v2v3v4tE-1",
  "HENTAIGANA LETTER RE-2v3v4tI-1v2v3v4v5v6v7tO-1v2v3v4v5v6tU-1v2v3v4v5v6sSA-1v2v3v4v5v6v7v8tE-1v2",
  "HENTAIGANA LETTER SE-3v4v5tI-1v2v3v4v5v6tO-1v2v3v4v5v6v7tU-1v2v3v4v5v6v7v8sTA-1v2v3v4tE-1v2v3v4",
  "HENTAIGANA LETTER TE-5v6v7v8v9tI-1v2v3v4v5v6v7tO-1v2v3v4v5v6vRAtU-1v2v3v4vTOsU-1u2u3u4u5sWA-1v2",
  "HENTAIGANA LETTER WA-3v4v5tE-1v2v3v4tI-1v2v3v4v5tO-1v2v3v4v5v6v7sYA-1v2v3v4v5vYOtO-1v2v3v4v5v6",
  "HENTAIGANA LETTER YU-1v2v3v4cRBdMITIAN CONJUGATE MATRIXcXAGRAM FOR ABUNDANCEoFTER COMPLETION",
  "HEXAGRAM FOR APPROACHnBEFORE COMPLETIONoITING THROUGHoREAKTHROUGHnCOMING TO MEETpNFLICT",
  "HEXAGRAM FOR CONTEMPLATIONnDARKENING OF THE LIGHToECREASEpLIVERANCEpVELOPMENT",
  "HEXAGRAM FOR DIFFICULTY AT THE BEGINNINGpSPERSIONoURATIONnENTHUSIASMnFELLOWSHIPoOLLOWING",
  "HEXAGRAM FOR GATHERING TOGETHERoRACEpEAT POSSESSIONvWERuREPONDERANCEtTAMINGnHOLDING TOGETHER",
  "HEXAGRAM FOR INCREASEpFLUENCEpNER TRUTHqOCENCEnLIMITATIONnMODESTYpUTH CORNERSnOBSTRUCTION",
  "HEXAGRAM FOR OPPOSITIONqRESSIONnPEACEoROGRESSoUSHING UPWARDnRETREATqURNpVOLUTION",
  "HEXAGRAM FOR SMALL PREPONDERANCEtTAMINGoPLITTING APARToTANDSTILLnTHE ABYSMAL WATERsRMY",
  "HEXAGRAM FOR THE AROUSING THUNDERrCAULDRONsLINGING FIREsREATIVE HEAVENrFAMILYrGENTLE WIND",
  "HEXAGRAM FOR THE JOYOUS LAKErKEEPING STILL MOUNTAINrMARRYING MAIDENrRECEPTIVE EARTHrWANDERER",
  "HEXAGRAM FOR THE WELLoREADINGnWAITINGoORK ON THE DECAYEDnYOUTHFUL FOLLYbIBISCUS",
  "HIGH BRIGHTNESS SYMBOLfOCTET PRESETfVOLTAGE SIGNe-HEELED SHOEfSPEED TRAINq WITH BULLET NOSE",
  "HIKING BOOTcNDU TEMPLEcPPOPOTAMUScRAGANA DIGRAPH YORIjITERATION MARKjLETTER ArRCHAIC WUyYEqBArE",
  "HIRAGANA LETTER BIrOrUqDArErIrOrUqEqGArErIrOrUqHArErIrOrUqIqKArErIrOrUqMArErIrOrUqNrArErIrOrUqO",
  "HIRAGANA LETTER PArErIrOrUqRArErIrOrUqSArErIrMALL AwEwIwKAxEwOwTUwUwWAxExIxOwYAxOxUrOrUqTArErI",
  "HIRAGANA LETTER TOrUqUqVUqWArErIrOqYArOrUqZArErIrOrUjVOICED ITERATION MARKcSTORIC SITEbOCHOcLE",
  "HOLLOW QUILT SQUARE ORNAMENTzd IN BLACK SQUAREcMOTHETICcNEY POTfBEEcOKcPcRIZONTAL BAR",
  "HORIZONTAL BLACK HEXAGONrOCTAGONlELLIPSISlLINE EXTENSIONlMALE WITH STROKE SIGN",
  "HORIZONTAL ONE EIGHTH BLOCK-1358zd2zd3zd4zd5zd6zd7lSCAN LINE-1v3v7v9lTAB KEYoULATIONv SET",
  "HORIZONTAL TABULATION WITH JUSTIFICATIONmRAFFIC LIGHTdSEf FACEgRACINGcSPITALcT BEVERAGEeDOG",
  "HOT PEPPEReSPRINGSdELcURGLASSj WITH FLOWING SANDdSEf BUILDINGoSgWITH GARDENbRYVNIA SIGNbTcJcS",
  "HUGGING FACEcNDRED POINTS SYMBOLcSHED FACEcTbYGIEAcPHENg BULLEThWITH DIAERESISg-MINUS",
  "HYPHENATION POINTdODIASTOLEcSTERESIS SYMBOLaI LOVE YOU HAND SIGNbCE CREAMfUBE",
  "ICE HOCKEY STICK AND PUCKeSKATEbDENTICAL TOm AND SLANTED PARALLELkWITH DOT ABOVEgFICATION CARD",
  "IDEOGRAPHIC ANNOTATION BOTTOM MARKxEARTH MARKxFIRST MARKyOUR MARKzcTH MARKxHEAVEN MARK",
  "IDEOGRAPHIC ANNOTATION LINKING MARKxMAN MARKyIDDLE MARKxONE MARKxREVERSE MARKxSECOND MARK",
  "IDEOGRAPHIC ANNOTATION THIRD MARKzREE MARKyOP MARKyWO MARKmCLOSING MARKnOMMA",
  "IDEOGRAPHIC DEPARTING TONE MARKoSCRIPTION CHARACTER ABOVE TO BELOWzsMIDDLE AND BELOW",
  "IDEOGRAPHIC DESCRIPTION CHARACTER FULL SURROUNDzjLEFT TO MIDDLE AND RIGHTzrRIGHTzjOVERLAID",
  "IDEOGRAPHIC DESCRIPTION CHARACTER SURROUND FROM ABOVEzxBELOWzxLEFTzyOWER LEFTzxUPPER LEFT",
  "IDEOGRAPHIC DESCRIPTION CHARACTER SURROUND FROM UPPER RIGHTmENTERING TONE MARKmFULL STOP",
  "IDEOGRAPHIC HALF FILL SPACEmITERATION MARKmLEVEL TONE MARKmNUMBER ZEROmRISING TONE MARKmSPACE",
  "IDEOGRAPHIC TALLY MARK FIVEyOURxONExTHREEyWOnELEGRAPH LINE FEED SEPARATOR SYMBOL",
  "IDEOGRAPHIC TELEGRAPH SYMBOL FOR APRILzjUGUSTziDAY EIGHTzrEENznLEVENzmFIFTEENzoVEznOURzqTEEN",
  "IDEOGRAPHIC TELEGRAPH SYMBOL FOR DAY NINEzqTEENzmONEzmSEVENzrTEENznIXzpTEENzmTENznHIRTEENzrY",
  "IDEOGRAPHIC TELEGRAPH SYMBOL FOR DAY THIRTY-ONEzoREEznWELVEzpNTYzs-EIGHTztFIVEzuOURztNINEztONE",
  "IDEOGRAPHIC TELEGRAPH SYMBOL FOR DAY TWENTY-SEVENzuIXztTHREEzuWOzoOzjECEMBERziFEBRUARY",
  "IDEOGRAPHIC TELEGRAPH SYMBOL FOR HOUR EIGHTzsEENzoLEVENznFIFTEENzpVEzoOURzrTEENznNINEzrTEEN",
  "IDEOGRAPHIC TELEGRAPH SYMBOL FOR HOUR ONEznSEVENzsTEENzoIXzqTEENznTENzoHIRTEENzpREEzoWELVEzqNTY",
  "IDEOGRAPHIC TELEGRAPH SYMBOL FOR HOUR TWENTY-FOURzuONEzuTHREEzvWOzpOznZEROziJANUARYzjULYzkNE",
  "IDEOGRAPHIC TELEGRAPH SYMBOL FOR MARCHzkYziNOVEMBERziOCTOBERziSEPTEMBERmVARIATION INDICATOR",
  "IMAGE OFi OR APPROXIMATELY EQUAL TOcPdERIAL ARAMAIC LETTER ALEPHzYINyBETHyDALETHyGIMELyHEzbTH",
  "IMPERIAL ARAMAIC LETTER KAPHyLAMEDHyMEMyNUNyPEyQOPHyRESHySADHEzbMEKHzHINyTAWzETHyWAWyYODHyZAYIN",
  "IMPERIAL ARAMAIC NUMBER ONEzc HUNDREDzdTHOUSANDyTENzc THOUSANDzHREEzWENTYzbOrSECTION SIGN",
  "INBOX TRAYcCOMING ENVELOPEfPLETE INFINITYdREASE FONT SIZE SYMBOLiS ASfMENTcDdEX",
  "INDEX POINTING AT THE VIEWERdIAN RUPEE SIGNeC SIYAQ ALTERNATE LAKH MARKmFRACTION ONE HALF",
  "INDIC SIYAQ FRACTION ONE QUARTERvTHREE QUARTERSmLAKH MARKmNUMBER ALTERNATE ONEzeTEN THOUSAND",
  "INDIC SIYAQ NUMBER ALTERNATE TWOtEIGHTy HUNDREDzTHOUSANDyYz THOUSANDtFIFTYy THOUSANDvVE",
  "INDIC SIYAQ NUMBER FIVE HUNDREDyTHOUSANDuORTYy THOUSANDvURx HUNDREDyTHOUSANDtKARORyANtLAKHxAN",
  "INDIC SIYAQ NUMBER NINEx HUNDREDyTHOUSANDxTYz THOUSANDtONEw HUNDREDxTHOUSANDtPREFIXED EIGHT",
  "INDIC SIYAQ NUMBER PREFIXED FIVEzeOURzdNINEzdONEzdSEVENzeIXzdTHREEzeWOtSEVENy HUNDREDzTHOUSAND",
  "INDIC SIYAQ NUMBER SEVENTYzb THOUSANDuIXw HUNDREDxTHOUSANDwTYy THOUSANDtTENw THOUSANDuHIRTY",
  "INDIC SIYAQ NUMBER THIRTY THOUSANDvREEy HUNDREDzTHOUSANDuWENTYz THOUSANDvOw HUNDREDxTHOUSAND",
  "INDIC SIYAQ PLACEHOLDERmRUPEE MARKcFINITYi NEGATED WITH VERTICAL BARdORMATION DESK PERSON",
  "INFORMATION SEPARATOR FOURwONEwTHREExWOnOURCEcHIBIT ARABIC FORM SHAPINGiSYMMETRIC SWAPPING",
  "INPUT SYMBOL FOR LATIN CAPITAL LETTERSxLETTERSxSMALL LETTERSrNUMBERSrSYMBOLS",
  "INSCRIPTIONAL PAHLAVI LETTER ALEPHzeBETHzeDALETHzeGIMELzeHEzgTHzeKAPHzeLAMEDHzeMEM-QOPHzeNUN",
  "INSCRIPTIONAL PAHLAVI LETTER PEzeSADHEzgMEKHzfHINzeTAWzfETHzeWAW-AYIN-RESHzeYODHzeZAYIN",
  "INSCRIPTIONAL PAHLAVI NUMBER FOURzeONEzh HUNDREDziTHOUSANDzeTENzfHREEzfWENTYzgO",
  "INSCRIPTIONAL PARTHIAN LETTER ALEPHzgYINzfBETHzfDALETHzfGIMELzfHEzhTHzfKAPHzfLAMEDHzfMEMzfNUN",
  "INSCRIPTIONAL PARTHIAN LETTER PEzfQOPHzfRESHzfSADHEzhMEKHzgHINzfTAWzgETHzfWAWzfYODHzfZAYIN",
  "INSCRIPTIONAL PARTHIAN NUMBER FOURzfONEzi HUNDREDzjTHOUSANDzfTENzgHREEzgWENTYzhOdERTION SYMBOL",
  "INTEGRALi AROUND A POINT OPERATORkVERAGE WITH SLASHjEXTENSIONjWITH DOUBLE STROKEoINTERSECTION",
  "INTEGRAL WITH LEFTWARDS ARROW WITH HOOKoOVERBARoTIMES SIGNoUNDERBARqIONeRCALATEfIOR PRODUCT",
  "INTERLINEAR ANNOTATION ANCHORxSEPARATORxTERMINATORgOCKED FEMALE AND MALE SIGNfROBANGfSECTION",
  "INTERSECTION ABOVE BAR ABOVE UNIONtUNIONnBESIDE AND JOINED WITH INTERSECTIONnWITH DOT",
  "INTERSECTION WITH LOGICAL ANDsOVERBARcVERSE BULLETiCHECK MARKnER BOARD FILL",
  "INVERSE DOWNWARDS ARROW WITH TIP LEFTWARDSiMEDIUM SHADEiWHITE CIRCLEfTED EXCLAMATION MARK",
  "INVERTED INTERROBANGjLAZY SkOW KAVYKAt WITH KAVYKA ABOVEjOHM SIGNjPENTAGRAMjQUESTION MARK",
  "INVERTED UNDERTIEdISIBLE PLUSkSEPARATORkTIMESbZAKAYA LANTERNaJACK-O-LANTERNcPANESE BANK SYMBOL",
  "JAPANESE CASTLEjDOLLSjGOBLINjINDUSTRIAL STANDARD SYMBOLjOGREjPOST OFFICEjSYMBOL FOR BEGINNERcR",
  "JAVANESE CONSONANT SIGN CAKRAyKERETyPENGKALjDIGIT EIGHTpFIVEqOURpNINEpONEpSEVENqIXpTHREEqWO",
  "JAVANESE DIGIT ZEROjLEFT RERENGGANlTTER ArIqBAs MURDAqCAs MURDAqDAs MAHAPRANArDAt MAHAPRANAqE",
  "JAVANESE LETTER GAs MURDAqHAqIr KAWIrIqJAs MAHAPRANAqKAs MURDAtSASAKqLAqMAqNAs MURDArGAt LELET",
  "JAVANESE LETTER NGA LELET RASWADIrYAt MURDAqOqPAs CEREKtMURDAqRAs AGUNGqSAs MAHAPRANAuURDAqTA",
  "JAVANESE LETTER TA MURDArTAt MAHAPRANAqUqWAqYAjPADA ADEGs ADEGpNDAPoISEN-ISENoLINGSApUHURqNGSI",
  "JAVANESE PADA MADYAoPANGKATpISELEHoTIRTA TUMETESoWINDUlNGKONnRANGKEPjRIGHT RERENGGANjSIGN CECAK",
  "JAVANESE SIGN CECAK TELUoLAYARoPANYANGGAoWIGNYANjTURNED PADA PISELEHjVOWEL SIGN DIRGA MURE",
  "JAVANESE VOWEL SIGN PEPETuSUKUy MENDUTuTALINGwRUNGvOLONGuWULUy MELIKbEANSbIGSAW PUZZLE PIECE",
  "JOINcYSTICKbUGGLINGcNOcPITERaKAABAcITHI ABBREVIATION SIGNhDANDAiOUBLE DANDAoSECTION MARK",
  "KAITHI ENUMERATION SIGNhLETTER ApApIpUoBApHAoCApHAoDApDAqDHAqHApHAoEoGApHAoHAoIpIoJApHAoKApHA",
  "KAITHI LETTER LAoMAoNApGApNApYAoOoPApHAoRApHAoSApHApSAoTApHApTAqHAoUpUoVAoYAhNUMBER SIGNs ABOVE",
  "KAITHI SECTION MARKiIGN ANUSVARAmCANDRABINDUmNUKTAmVIRAMAoSARGAhVOWEL SIGN AAtItUsEsItIsOsUtU",
  "KAITHI VOWEL SIGN VOCALIC RcNGAROOeXI RADICAL AGAINqNDqRRIVEsOWqXEpBADGERrMBOOqEANqIGrRDrTTER",
  "KANGXI RADICAL BLACKrOODrUEqOATrDYrLT OF CLOTHrNErWqRANCHrISTLErUSHpCARTrULDRONrVEqHILDqITYqLAN",
  "KANGXI RADICAL CLAWrIFFrOTHESqOLORrMPARErRPSErVERrWpDEATHrERqIPPERrSHsTINGUISHrVINATIONqO NOTrG",
  "KANGXI RADICAL DOORrTsTED CLIFFwTENTrUBLE XrWN BOXqRAGONrUMrYpEARsTHrTqIGHTqMBROIDERYqNCLOSURE",
  "KANGXI RADICAL ENTERqVENtINGqYEpFACErNGrTHERqEATHERqIELDrGHTrRErSHqLUTErYqOOTqRAGRANTrOGqUR",
  "KANGXI RADICAL GATEqHOSTqOr SLOWLYrLDqRAINsSSpHAIRrLBERDsF TREE TRUNKrNDqEADsRTrMP",
  "KANGXI RADICAL HIDING ENCLOSUREqOOKrRNsSEpICEqNCHrSECTpJADErRpKNIFEpLACKrMEqEAFsTHERrEKrGSqID",
  "KANGXI RADICAL LIFErNEqONGt STRIDEpMANqEATrLONqILLETrNISTERqOONrRNINGsTARrUNDtTAINsTHpNETqOSErT",
  "KANGXI RADICAL OLDqNEsSELFqPEN BOXrPOSEpPIGqLOWqOWERqRIVATErOFOUNDpRAINrPrTqEDqICErGHT OPEN BOX",
  "KANGXI RADICAL RIVERqOOFqUNpSACRIFICIAL WINErLTrYqCHOLARrRIPTqEALrCONDrErLFqHEEPsLLrOOT",
  "KANGXI RADICAL SHORT TAILED BIRDwHREADqICKNESSrLKqKINqLASHsVErICEqMALLqNOUTqOUNDqPEARsECHrIRIT",
  "KANGXI RADICAL SPOONrROUTqQUAREqTANDrEAMsPrONEsPtPINGqUNqWEETpTABLErLLrNNED LEATHERqENqIGERrLE",
  "KANGXI RADICAL TONGUErOTHqRACKrEErIPODqURBANsTLEqWOs HANDSpUSEpVALLEYqILLAGEpWALKt ENCLOSURE",
  "KANGXI RADICAL WATERqEAPONrSTqHEATrITEqINDsEqOMANrRKqRAPrONGpYELLOWdNADA AI LENGTH MARK",
  "KANNADA DIGIT EIGHToFIVEpOURoNINEoONEoSEVENpIXoTHREEpWOoZEROiLENGTH MARKkTTER AqAqIqUpBAqHApCA",
  "KANNADA LETTER CHApDAqDArHAqHApEqEpFApGAqHApHApIqIpJAqHApKAqHApLAqLArLApMApNArKAARA POLLUqGAqNA",
  "KANNADA LETTER NYApOqOpPAqHApRAqRApSAqHAqSApTAqHAqTArHApUqUpVAqOCALIC LyLxRyRpYAiSIGN ANUSVARA",
  "KANNADA SIGN AVAGRAHAnCANDRABINDUnJIHVAMULIYAnNUKTAnSIDDHAMoPACING CANDRABINDUnUPADHMANIYA",
  "KANNADA SIGN VIRAMApSARGAiVOWEL SIGN AAuIuUtEuEtIuItOuOtUuUtVOCALIC LzdLzcRzdR",
  "KATAKANA DIGRAPH KOTOjITERATION MARKjLETTER ArRCHAIC EyWUyYEzIqBArErIrOrUqDArErIrOrUqEqGArErIrO",
  "KATAKANA LETTER GUqHArErIrOrUqIqKArErIrOrUqMArErIsNNAN NASALIZED TONE-1zn2zn3zn4zn5zn7zn8",
  "KATAKANA LETTER MINNAN TONE-2zd3zd4zd5zd7zd8rOrUqNrArErIrOrUqOqPArErIrOrUqRArErIrOrUqSArErI",
  "KATAKANA LETTER SMALL AwEwHAxExIxOxUwIwKAxExUwMUwNxUwOwRAxExIxOxUwSIxUwTOxUwUwWAxExIxOwYAxOxUrO",
  "KATAKANA LETTER SUqTArErIrOrUqUqVArErIrOrUqWArErIrOqYArOrUqZArErIrOrUjMIDDLE DOT",
  "KATAKANA VOICED ITERATION MARKi-HIRAGANA DOUBLE HYPHENsPROLONGED SOUND MARK",
  "KATAKANA-HIRAGANA SEMI-VOICED SOUND MARKsVOICED SOUND MARKcYAH LI DIGIT EIGHTpFIVEqOURpNINEpONE",
  "KAYAH LI DIGIT SEVENqIXpTHREEqWOpZEROjLETTER AqBAqCAqDAqGAqHArTAqIqKArHAqLAqMAqNArGArYAqOErOqPA",
  "KAYAH LI LETTER PHAqRAqSArHAqTArHAqVAqWAqYAqZAjSIGN CWIoSHYAjTONE CALYAt PLOPHUoPLOPHUjVOWEL E",
  "KAYAH LI VOWEL EEpOpUqEbELVIN SIGNcYdBOARDi AND MOUSEdCAP TENbHAROSHTHI DIGIT FOURrONErTHREEsWO",
  "KHAROSHTHI FRACTION ONE HALFlLETTER AsBAtHAsCAtHAsDAtDAuHAtHAsGAtHAsHAsJAsKAtHAtKAsLAsMAsNAtNA",
  "KHAROSHTHI LETTER NYAsPAtHAsRAsSAtHAtSAsTAtHAtTAuHAuTAvHAsVAtHAsYAsZAlNUMBER ONE HUNDRED",
  "KHAROSHTHI NUMBER ONE THOUSANDsTENtWENTYlPUNCTUATION CIRCLEyRESCENT BARxDANDAyOTzUBLE DANDA",
  "KHAROSHTHI PUNCTUATION LINESyOTUSxMANGALAMxSMALL CIRCLElSIGN ANUSVARAqBAR ABOVEqCAUDAqDOT BELOW",
  "KHAROSHTHI SIGN DOUBLE RING BELOWqVISARGAlVIRAMAmOWEL LENGTH MARKrSIGN EwIwOwUwVOCALIC R",
  "KHITAN SMALL SCRIPT CHARACTER-18B00zj1zj2zj3zj4zj5zj6zj7zj8zj9zjAzjBzjCzjDzjEzjFzi10zj1zj2zj3",
  "KHITAN SMALL SCRIPT CHARACTER-18B14zj5zj6zj7zj8zj9zjAzjBzjCzjDzjEzjFzi20zj1zj2zj3zj4zj5zj6zj7",
  "KHITAN SMALL SCRIPT CHARACTER-18B28zj9zjAzjBzjCzjDzjEzjFzi30zj1zj2zj3zj4zj5zj6zj7zj8zj9zjAzjB",
  "KHITAN SMALL SCRIPT CHARACTER-18B3CzjDzjEzjFzi40zj1zj2zj3zj4zj5zj6zj7zj8zj9zjAzjBzjCzjDzjEzjF",
  "KHITAN SMALL SCRIPT CHARACTER-18B50zj1zj2zj3zj4zj5zj6zj7zj8zj9zjAzjBzjCzjDzjEzjFzi60zj1zj2zj3",
  "KHITAN SMALL SCRIPT CHARACTER-18B64zj5zj6zj7zj8zj9zjAzjBzjCzjDzjEzjFzi70zj1zj2zj3zj4zj5zj6zj7",
  "KHITAN SMALL SCRIPT CHARACTER-18B78zj9zjAzjBzjCzjDzjEzjFzi80zj1zj2zj3zj4zj5zj6zj7zj8zj9zjAzjB",
  "KHITAN SMALL SCRIPT CHARACTER-18B8CzjDzjEzjFzi90zj1zj2zj3zj4zj5zj6zj7zj8zj9zjAzjBzjCzjDzjEzjF",
  "KHITAN SMALL SCRIPT CHARACTER-18BA0zj1zj2zj3zj4zj5zj6zj7zj8zj9zjAzjBzjCzjDzjEzjFziB0zj1zj2zj3",
  "KHITAN SMALL SCRIPT CHARACTER-18BB4zj5zj6zj7zj8zj9zjAzjBzjCzjDzjEzjFziC0zj1zj2zj3zj4zj5zj6zj7",
  "KHITAN SMALL SCRIPT CHARACTER-18BC8zj9zjAzjBzjCzjDzjEzjFziD0zj1zj2zj3zj4zj5zj6zj7zj8zj9zjAzjB",
  "KHITAN SMALL SCRIPT CHARACTER-18BDCzjDzjEzjFziE0zj1zj2zj3zj4zj5zj6zj7zj8zj9zjAzjBzjCzjDzjEzjF",
  "KHITAN SMALL SCRIPT CHARACTER-18BF0zj1zj2zj3zj4zj5zj6zj7zj8zj9zjAzjBzjCzjDzjEzjFzhC00zj1zj2zj3",
  "KHITAN SMALL SCRIPT CHARACTER-18C04zj5zj6zj7zj8zj9zjAzjBzjCzjDzjEzjFzi10zj1zj2zj3zj4zj5zj6zj7",
  "KHITAN SMALL SCRIPT CHARACTER-18C18zj9zjAzjBzjCzjDzjEzjFzi20zj1zj2zj3zj4zj5zj6zj7zj8zj9zjAzjB",
  "KHITAN SMALL SCRIPT CHARACTER-18C2CzjDzjEzjFzi30zj1zj2zj3zj4zj5zj6zj7zj8zj9zjAzjBzjCzjDzjEzjF",
  "KHITAN SMALL SCRIPT CHARACTER-18C40zj1zj2zj3zj4zj5zj6zj7zj8zj9zjAzjBzjCzjDzjEzjFzi50zj1zj2zj3",
  "KHITAN SMALL SCRIPT CHARACTER-18C54zj5zj6zj7zj8zj9zjAzjBzjCzjDzjEzjFzi60zj1zj2zj3zj4zj5zj6zj7",
  "KHITAN SMALL SCRIPT CHARACTER-18C68zj9zjAzjBzjCzjDzjEzjFzi70zj1zj2zj3zj4zj5zj6zj7zj8zj9zjAzjB",
  "KHITAN SMALL SCRIPT CHARACTER-18C7CzjDzjEzjFzi80zj1zj2zj3zj4zj5zj6zj7zj8zj9zjAzjBzjCzjDzjEzjF",
  "KHITAN SMALL SCRIPT CHARACTER-18C90zj1zj2zj3zj4zj5zj6zj7zj8zj9zjAzjBzjCzjDzjEzjFziA0zj1zj2zj3",
  "KHITAN SMALL SCRIPT CHARACTER-18CA4zj5zj6zj7zj8zj9zjAzjBzjCzjDzjEzjFziB0zj1zj2zj3zj4zj5zj6zj7",
  "KHITAN SMALL SCRIPT CHARACTER-18CB8zj9zjAzjBzjCzjDzjEzjFziC0zj1zj2zj3zj4zj5zj6zj7zj8zj9zjAzjB",
  "KHITAN SMALL SCRIPT CHARACTER-18CCCzjDzjEzjFziD0zj1zj2zj3zj4zj5uFILLERcMER CURRENCY SYMBOL RIEL",
  "KHMER DIGIT EIGHTmFIVEnOURmNINEmONEmSEVENnIXmTHREEnWOmZEROgINDEPENDENT VOWEL LYzbYyQAAzbIzbQzbU",
  "KHMER INDEPENDENT VOWEL QEzIzbIzOO TYPE ONEziTWOzUzbKzbUzcVyRYzbYgLETTER BAnCAoHApOoOnDAoOnHA",
  "KHMER LETTER KAoHApOoOnLAoOnMOnNGOoNOoOoYOnPHApOoOnQAnROnSAoHAoSOnTAoHApOoOoTHAqOnVOnYO",
  "KHMER SIGN AHSDAmTTHACANmVAKRAHASANYAlBANTOCnRIYOOSANnTHAMASATmEYYALlCAMNUC PII KUUHmOENG",
  "KHMER SIGN KAKABATmHANmOOMUUTlLEK TOOlMUUSIKATOANlNIKAHITlPHNAEK MUANlREAHMUKmOBAT",
  "KHMER SIGN SAMYOK SANNYAlTOANDAKHIATmRIISAPlVIRIAMlYUUKALEAPINTUhYMBOL BEI KOETrROCoUON KOET",
  "KHMER SYMBOL BUON ROCnDAP KOETrROCq-BEI KOETvROCsUON KOETwROCrMUOY KOETwROCrPII KOETvROC",
  "KHMER SYMBOL DAP-PRAM KOETwROCnLEK ATTAK BEIyUONxMUOYxPIIyRAMzc-BEIzeUONzdMUOYzdPIIxSON",
  "KHMER SYMBOL MUOY KOETsROCnPATHAMASAToII KOETrROCoRAM KOETsROCr-BEI KOETwROCtUON KOETxROC",
  "KHMER SYMBOL PRAM-MUOY KOETxROCsPII KOETwROCnTUTEYASATgVOWEL INHERENT AAwQmSIGN AAsEsIsUrErIsE",
  "KHMER VOWEL SIGN IIrOEsOrUsAsUrYsAsYcOJKI ABBREVIATION SIGNhDANDAiOUBLE DANDAoSECTION MARK",
  "KHOJKI LETTER ApApIpUoBApBApHAoCApHAoDApDAqDAqHApHAoEoGApGApHAoHAoIoJApJAoKApHAoLApLAoMAoNApGA",
  "KHOJKI LETTER NNApYAoOoPApHAoRAoSAoTApHApTAqHAoUoVAoYAhSECTION MARKiIGN ANUSVARAmNUKTAmSHADDA",
  "KHOJKI SIGN SUKUNmVIRAMAhVOWEL SIGN AAtItUsEsItIsOsUhWORD SEPARATORcUDAWADI DIGIT EIGHTqFIVE",
  "KHUDAWADI DIGIT FOURqNINEqONEqSEVENrIXqTHREErWOqZEROkLETTER AsAsIsUrBAsBAsHArCAsHArDAsDAtDAtHA",
  "KHUDAWADI LETTER DHArErGAsGAsHArHArIsIrJAsHAsJArKAsHArLArMArNAsGAsNAsYArOrPAsHArRAsRArSAsHArTA",
  "KHUDAWADI LETTER THAsTAtHArUsUrVArYAkSIGN ANUSVARApNUKTApVIRAMAkVOWEL SIGN AAwIwUvEvIwIvOvUwU",
  "KIMONOcP SIGNcSSe MARKeING CAT FACE WITH CLOSED EYESiFACEm WITH CLOSED EYESsSMILING EYEScTE",
  "KIWIFRUITbNEELING PERSONcOTbOALAcREAN STANDARD SYMBOLbRONOSaL B BAR SYMBOLbAB COATdEL",
  "LACROSSE STICK AND BALLcDDERdY BEETLEcNGUAGE TAGcO CANCELLATION MARKeDIGIT EIGHTkFIVElOURkNINE",
  "LAO DIGIT ONEkSEVENlIXkTHREElWOkZEROeELLIPSISeHO MOhNOeKO LAeLETTER BOlCOlDOlFO FAYpONoSUNGoTAM",
  "LAO LETTER HO SUNGoTAMlKHMU GOqNYOnO SUNGpTAMmOlLOn LINGpOOTlMOlNGOmOmYOlOlPALI BHAqCHAqDDAsHA",
  "LAO LETTER PALI DHAqGHAqJHAqLLAqNNArYAqTTAsHAmHO SUNGpTAMmOlROlSANSKRIT SHAvSAmO SUNGoTAM",
  "LAO LETTER THO SUNGpTAMmOlWOlYOeNIGGAHITAeSEMIVOWEL SIGN LOtNYOfIGN PALI VIRAMAeTONE MAI CATAWA",
  "LAO TONE MAI EKnTHOoIeVOWEL SIGN AqAqIqMqYpEqIpIqIpMAI KANuONpOpUqUpYqYcRGE BLUE CIRCLElDIAMOND",
  "LARGE BLUE SQUAREhROWN CIRCLEmSQUAREgCIRCLEgDOWN TACKgGREEN CIRCLEmSQUARE",
  "LARGE LEFT TRIANGLE OPERATORgONE DOT OVER TWO DOTS PUNCTUATIONkRING OVER TWO RINGS PUNCTUATION",
  "LARGE ORANGE CIRCLEnDIAMONDnSQUAREgPURPLE CIRCLEnSQUAREgRED CIRCLEkSQUARE",
  "LARGE TRIPLE VERTICAL BAR OPERATORhWO DOTS OVER ONE DOT PUNCTUATION",
  "LARGE TWO RINGS OVER ONE RING PUNCTUATIONgUP TACKgYELLOW CIRCLEnSQUAREfR THANl OR EQUAL TO",
  "LARI SIGNcST QUARTER MOONr SYMBOLsWITH FACEcTIN CAPITAL LETTER Aw WITH ACUTEzdBREVEzi AND ACUTE",
  "LATIN CAPITAL LETTER A WITH BREVE AND DOT BELOWznGRAVEznHOOK ABOVEznTILDEzdCARONzeIRCUMFLEX",
  "LATIN CAPITAL LETTER A WITH CIRCUMFLEX AND ACUTEzsDOT BELOWzsGRAVEzsHOOK ABOVEzsTILDE",
  "LATIN CAPITAL LETTER A WITH DIAERESISzm AND MACRONzeOT ABOVEzm AND MACRONzhBELOWzfUBLE GRAVE",
  "LATIN CAPITAL LETTER A WITH GRAVEzdHOOK ABOVEzdINVERTED BREVEzdMACRONzdOGONEKzdRING ABOVE",
  "LATIN CAPITAL LETTER A WITH RING ABOVE AND ACUTEziBELOWzdSTROKEzdTILDEwAwEx WITH ACUTEzeMACRON",
  "LATIN CAPITAL LETTER AFRICAN DwLPHAwNGLICANA WwOwUwVx WITH HORIZONTAL BARwYvBw WITH DOT ABOVE",
  "LATIN CAPITAL LETTER B WITH DOT BELOWzdFLOURISHzdHOOKzdLINE BELOWzdSTROKEzdTOPBARwETAwROKEN LvC",
  "LATIN CAPITAL LETTER C WITH ACUTEzdBARzdCARONzeEDILLAzk AND ACUTEzeIRCUMFLEXzdDOT ABOVEzdHOOK",
  "LATIN CAPITAL LETTER C WITH PALATAL HOOKzdSTROKEwHIwLOSED INSULAR GwONwUATRILLOzf WITH COMMAvD",
  "LATIN CAPITAL LETTER D WITH CARONzeEDILLAzeIRCUMFLEX BELOWzdDOT ABOVEzhBELOWzdHOOKzdLINE BELOW",
  "LATIN CAPITAL LETTER D WITH SHORT STROKE OVERLAYzeMALL LETTER Zzr WITH CARONzeTROKEzdTOPBARwZ",
  "LATIN CAPITAL LETTER DZ WITH CARONvEw WITH ACUTEzdBREVEzdCARONzeEDILLAzk AND BREVEzeIRCUMFLEX",
  "LATIN CAPITAL LETTER E WITH CIRCUMFLEX AND ACUTEzsDOT BELOWzsGRAVEzsHOOK ABOVEzsTILDEzoBELOW",
  "LATIN CAPITAL LETTER E WITH DIAERESISzeOT ABOVEzhBELOWzfUBLE GRAVEzdGRAVEzdHOOK ABOVE",
  "LATIN CAPITAL LETTER E WITH INVERTED BREVEzdMACRONzj AND ACUTEzoGRAVEzdOGONEKzdSTROKEzdTILDE",
  "LATIN CAPITAL LETTER E WITH TILDE BELOWwGYPTOLOGICAL AINzlLEFwNGwSHwTxHwZHy REVERSEDzWITH CARON",
  "LATIN CAPITAL LETTER Fw WITH DOT ABOVEzdHOOKzdSTROKEvGw WITH ACUTEzdBREVEzdCARONzeEDILLA",
  "LATIN CAPITAL LETTER G WITH CIRCUMFLEXzdDOT ABOVEzdHOOKzdMACRONzdOBLIQUE STROKEzdSTROKEwAMMAwHA",
  "LATIN CAPITAL LETTER GLOTTAL AzeIzeSTOPzeUvHw WITH BREVE BELOWzdCARONzeEDILLAzeIRCUMFLEX",
  "LATIN CAPITAL LETTER H WITH DESCENDERzeIAERESISzeOT ABOVEzhBELOWzdHOOKzdSTROKEwALF HwENGwWAIRvI",
  "LATIN CAPITAL LETTER I WITH ACUTEzdBREVEzdCARONzeIRCUMFLEXzdDIAERESISzm AND ACUTEzeOT ABOVE",
  "LATIN CAPITAL LETTER I WITH DOT BELOWzfUBLE GRAVEzdGRAVEzdHOOK ABOVEzdINVERTED BREVEzdMACRON",
  "LATIN CAPITAL LETTER I WITH OGONEKzdSTROKEzdTILDEzi BELOWwNSULAR DzeFzeGzeRzeSzeTwOTAwSvJ",
  "LATIN CAPITAL LETTER J WITH CIRCUMFLEXzeROSSED-TAILzdSTROKEvKw WITH ACUTEzdCARONzeEDILLA",
  "LATIN CAPITAL LETTER K WITH DESCENDERzeIAGONAL STROKEzeOT BELOWzdHOOKzdLINE BELOW",
  "LATIN CAPITAL LETTER K WITH OBLIQUE STROKEzdSTROKEzj AND DIAGONAL STROKEvLw WITH ACUTEzdBAR",
  "LATIN CAPITAL LETTER L WITH BELTzdCARONzeEDILLAzeIRCUMFLEX BELOWzdDOT BELOWzm AND MACRON",
  "LATIN CAPITAL LETTER L WITH DOUBLE BARzdHIGH STROKEzdLINE BELOWzdMIDDLE DOTzkTILDE",
  "LATIN CAPITAL LETTER L WITH SMALL LETTER JzeTROKEwJvMw WITH ACUTEzdDOT ABOVEzhBELOWzdHOOK",
  "LATIN CAPITAL LETTER MIDDLE SCOTS Szc-WELSH LLzjVvNw WITH ACUTEzdCARONzeEDILLAzeIRCUMFLEX BELOW",
  "LATIN CAPITAL LETTER N WITH DESCENDERzeOT ABOVEzhBELOWzdGRAVEzdLEFT HOOKzeINE BELOW",
  "LATIN CAPITAL LETTER N WITH LONG RIGHT LEGzdOBLIQUE STROKEzdSMALL LETTER JzdTILDEwJvO",
  "LATIN CAPITAL LETTER O WITH ACUTEzdBREVEzdCARONzeIRCUMFLEXzn AND ACUTEzsDOT BELOWzsGRAVE",
  "LATIN CAPITAL LETTER O WITH CIRCUMFLEX AND HOOK ABOVEzsTILDEzdDIAERESISzm AND MACRONzeOT ABOVE",
  "LATIN CAPITAL LETTER O WITH DOT ABOVE AND MACRONzhBELOWzfUBLE ACUTEzkGRAVEzdGRAVEzdHOOK ABOVE",
  "LATIN CAPITAL LETTER O WITH HORNzh AND ACUTEzmDOT BELOWzmGRAVEzmHOOK ABOVEzmTILDE",
  "LATIN CAPITAL LETTER O WITH INVERTED BREVEzdLONG STROKE OVERLAYzfOPzdMACRONzj AND ACUTEzoGRAVE",
  "LATIN CAPITAL LETTER O WITH MIDDLE TILDEzdOGONEKzj AND MACRONzdSTROKEzj AND ACUTEzdTILDE",
  "LATIN CAPITAL LETTER O WITH TILDE AND ACUTEznDIAERESISznMACRONwIwLD POLISH OwMEGAwOwPEN EzbOwU",
  "LATIN CAPITAL LETTER Pw WITH ACUTEzdDOT ABOVEzdFLOURISHzdHOOKzdSQUIRREL TAILzeTROKE",
  "LATIN CAPITAL LETTER P WITH STROKE THROUGH DESCENDERvQw WITH DIAGONAL STROKE",
  "LATIN CAPITAL LETTER Q WITH STROKE THROUGH DESCENDERvRw ROTUNDAxWITH ACUTEzdCARONzeEDILLA",
  "LATIN CAPITAL LETTER R WITH DOT ABOVEzhBELOWzm AND MACRONzfUBLE GRAVEzdINVERTED BREVE",
  "LATIN CAPITAL LETTER R WITH LINE BELOWzdOBLIQUE STROKEzdSTROKEzdTAILwEVERSED C WITH DOTzfE",
  "LATIN CAPITAL LETTER REVERSED HALF HzfOPEN EwUM ROTUNDAvSw WITH ACUTEzi AND DOT ABOVEzdCARON",
  "LATIN CAPITAL LETTER S WITH CARON AND DOT ABOVEzeEDILLAzeIRCUMFLEXzeOMMA BELOWzdDOT ABOVE",
  "LATIN CAPITAL LETTER S WITH DOT BELOWzm AND DOT ABOVEzdHOOKzdOBLIQUE STROKE",
  "LATIN CAPITAL LETTER S WITH SHORT STROKE OVERLAYzeWASH TAILwALTILLOwCHWAxRIPT GwHARP SwIGMOID S",
  "LATIN CAPITAL LETTER SMALL CAPITAL IzcQ WITH HOOK TAILvTw WITH CARONzeEDILLAzeIRCUMFLEX BELOW",
  "LATIN CAPITAL LETTER T WITH COMMA BELOWzdDIAGONAL STROKEzeOT ABOVEzhBELOWzdHOOKzdLINE BELOW",
  "LATIN CAPITAL LETTER T WITH RETROFLEX HOOKzdSTROKEwHORNzb WITH STROKEzn THROUGH DESCENDER",
  "LATIN CAPITAL LETTER TONE FIVEzbSIXzbTWOwRESILLOwURNED AzeLPHAzdHzdINSULAR GzdKzdLzdMzdTzdVwZvU",
  "LATIN CAPITAL LETTER U BARxWITH ACUTEzdBREVEzdCARONzeIRCUMFLEXzn BELOWzdDIAERESISzm AND ACUTE",
  "LATIN CAPITAL LETTER U WITH DIAERESIS AND CARONzrGRAVEzrMACRONznBELOWzeOT BELOWzfUBLE ACUTE",
  "LATIN CAPITAL LETTER U WITH DOUBLE GRAVEzdGRAVEzdHOOK ABOVEzfRNzh AND ACUTEzmDOT BELOWzmGRAVE",
  "LATIN CAPITAL LETTER U WITH HORN AND HOOK ABOVEzmTILDEzdINVERTED BREVEzdMACRONzj AND DIAERESIS",
  "LATIN CAPITAL LETTER U WITH OGONEKzdRING ABOVEzdSTROKEzdTILDEzi AND ACUTEzjBELOWwPSILONvV",
  "LATIN CAPITAL LETTER V WITH DIAGONAL STROKEzeOT BELOWzdHOOKzdTILDEwENDwISIGOTHIC ZwOLAPUK AE",
  "LATIN CAPITAL LETTER VOLAPUK OEzeUEwYvWw WITH ACUTEzdCIRCUMFLEXzdDIAERESISzeOT ABOVEzhBELOW",
  "LATIN CAPITAL LETTER W WITH GRAVEzdHOOKwYNNvXw WITH DIAERESISzeOT ABOVEvYw WITH ACUTE",
  "LATIN CAPITAL LETTER Y WITH CIRCUMFLEXzdDIAERESISzeOT ABOVEzhBELOWzdGRAVEzdHOOKzh ABOVEzdLOOP",
  "LATIN CAPITAL LETTER Y WITH MACRONzdSTROKEzdTILDEwOGHvZw WITH ACUTEzdCARONzeIRCUMFLEX",
  "LATIN CAPITAL LETTER Z WITH DESCENDERzeOT ABOVEzhBELOWzdHOOKzdLINE BELOWzdPALATAL HOOKzdSTROKE",
  "LATIN CAPITAL LETTER Z WITH SWASH TAILpIGATURE IJxOEhROSSgEPIGRAPHIC LETTER ARCHAIC MyI LONGA",
  "LATIN EPIGRAPHIC LETTER INVERTED MyREVERSED FziPySIDEWAYS IgLETTER AINoLVEOLAR CLICK",
  "LATIN LETTER BIDENTAL PERCUSSIVEpLABIAL CLICKwPERCUSSIVEnDENTAL CLICKnGLOTTAL STOPz WITH STROKE",
  "LATIN LETTER INVERTED GLOTTAL STOPzj WITH CURLzpSTROKEnLATERAL CLICK",
  "LATIN LETTER PHARYNGEAL VOICED FRICATIVEnRETROFLEX CLICKzd WITH RETROFLEX HOOKpVERSED ESH LOOP",
  "LATIN LETTER REVERSED GLOTTAL STOP WITH STROKEnSINOLOGICAL DOToMALL CAPITAL AzdEzcBzdARRED BzcC",
  "LATIN LETTER SMALL CAPITAL DzcEzdTHzdZHzcFzcGzd WITH HOOKzcHzcIzdNVERTED RzcJzcKzcLzd WITH BELT",
  "LATIN LETTER SMALL CAPITAL L WITH STROKEzcMzcNzcOzdEzdPEN OzdUzcPzcQzcRzd WITH RIGHT LEG",
  "LATIN LETTER SMALL CAPITAL REVERSED NzlRzdUMzcSzcTzdURNED EzjGzjKzjMzjRzcUzcVzcWzcYzcZ",
  "LATIN LETTER STRETCHED Cy WITH CURLnTWO WITH STROKEnVOICED LARYNGEAL SPIRANTnWYNNnYR",
  "LATIN SMALL CAPITAL LETTER I WITH STROKEzcU WITH STROKEmLETTER Au REVERSED-SCHWAvWITH ACUTE",
  "LATIN SMALL LETTER A WITH BREVEzg AND ACUTEzlDOT BELOWzlGRAVEzlHOOK ABOVEzlTILDEzbCARON",
  "LATIN SMALL LETTER A WITH CIRCUMFLEXzl AND ACUTEzqDOT BELOWzqGRAVEzqHOOK ABOVEzqTILDE",
  "LATIN SMALL LETTER A WITH DIAERESISzk AND MACRONzcOT ABOVEzk AND MACRONzfBELOWzdUBLE GRAVE",
  "LATIN SMALL LETTER A WITH GRAVEzbHOOK ABOVEzbINVERTED BREVEzbMACRONzbOGONEKzbRETROFLEX HOOK",
  "LATIN SMALL LETTER A WITH RIGHT HALF RINGzdNG ABOVEzl AND ACUTEzgBELOWzbSTROKEzbTILDEuAuE",
  "LATIN SMALL LETTER AE WITH ACUTEzcMACRONuLPHAy WITH RETROFLEX HOOKuNGLICANA WuOuUuV",
  "LATIN SMALL LETTER AV WITH HORIZONTAL BARuYtBu WITH DOT ABOVEzfBELOWzbFLOURISHzbHOOK",
  "LATIN SMALL LETTER B WITH LINE BELOWzbMIDDLE TILDEzbPALATAL HOOKzbSTROKEzbTOPBARuARRED ALPHAzbE",
  "LATIN SMALL LETTER BARRED OvSELINE ESHuETAuLACKLETTER EzgOzh WITH STROKEuOTTOM HALF OuROKEN LtC",
  "LATIN SMALL LETTER C WITH ACUTEzbBARzbCARONzcEDILLAzi AND ACUTEzcIRCUMFLEXzcURLzbDOT ABOVE",
  "LATIN SMALL LETTER C WITH HOOKzbPALATAL HOOKzbRETROFLEX HOOKzbSTROKEuHIw WITH LOW LEFT SERIF",
  "LATIN SMALL LETTER CHI WITH LOW RIGHT RINGuLOSED INSULAR GzbOMEGAzcPEN EzbREVERSED OPEN EuON",
  "LATIN SMALL LETTER CUATRILLOzd WITH COMMAtDu WITH CARONzcEDILLAzcIRCUMFLEX BELOWzcURL",
  "LATIN SMALL LETTER D WITH DOT ABOVEzfBELOWzbHOOKzf AND TAILzbLINE BELOWzbMIDDLE TILDE",
  "LATIN SMALL LETTER D WITH PALATAL HOOKzbSHORT STROKE OVERLAYzcTROKEzbTAILzcOPBARuB DIGRAPHuELTA",
  "LATIN SMALL LETTER DEZH DIGRAPHzg WITH PALATAL HOOKzmRETROFLEX HOOKuOTLESS IzcJzd WITH STROKE",
  "LATIN SMALL LETTER DOTLESS J WITH STROKE AND HOOKvUBLE Rzc WITH CROSSED-TAILzbTHORNzbWYNNuUMuZ",
  "LATIN SMALL LETTER DZ DIGRAPHze WITH CURLzkRETROFLEX HOOKwWITH CARONtEu WITH ACUTEzbBREVE",
  "LATIN SMALL LETTER E WITH CARONzcEDILLAzi AND BREVEzcIRCUMFLEXzl AND ACUTEzqDOT BELOWzqGRAVE",
  "LATIN SMALL LETTER E WITH CIRCUMFLEX AND HOOK ABOVEzqTILDEzmBELOWzbDIAERESISzcOT ABOVEzfBELOW",
  "LATIN SMALL LETTER E WITH DOUBLE GRAVEzbFLOURISHzbGRAVEzbHOOK ABOVEzbINVERTED BREVEzbMACRON",
  "LATIN SMALL LETTER E WITH MACRON AND ACUTEzmGRAVEzbNOTCHzbOGONEKzbRETROFLEX HOOKzbSTROKEzbTILDE",
  "LATIN SMALL LETTER E WITH TILDE BELOWuGYPTOLOGICAL AINzjLEFuNGw WITH CROSSED-TAILzdPALATAL HOOK",
  "LATIN SMALL LETTER ESHw WITH CURLzdDOUBLE BARzn AND CURLzdPALATAL HOOKzdRETROFLEX HOOKuTvHuZH",
  "LATIN SMALL LETTER EZH REVERSEDxWITH CARONzeURLzdPALATAL HOOKzdRETROFLEX HOOKzdTAILtF",
  "LATIN SMALL LETTER F WITH DOT ABOVEzbHOOKzbMIDDLE TILDEzbPALATAL HOOKzbSTROKEuENG DIGRAPH",
  "LATIN SMALL LETTER FENG DIGRAPH WITH TRILLtGu WITH ACUTEzbBREVEzbCARONzcEDILLAzcIRCUMFLEX",
  "LATIN SMALL LETTER G WITH DOT ABOVEzbHOOKzbMACRONzbOBLIQUE STROKEzbPALATAL HOOKzbSTROKEuAMMAuHA",
  "LATIN SMALL LETTER GLOTTAL AzcIzcSTOPzcUtHu WITH BREVE BELOWzbCARONzcEDILLAzcIRCUMFLEX",
  "LATIN SMALL LETTER H WITH DESCENDERzcIAERESISzcOT ABOVEzfBELOWzbHOOKzbLINE BELOWzbPALATAL HOOK",
  "LATIN SMALL LETTER H WITH STROKEuALF HuENGx WITH HOOKuVtIu WITH ACUTEzbBREVEzbCARONzcIRCUMFLEX",
  "LATIN SMALL LETTER I WITH DIAERESISzk AND ACUTEzcOT BELOWzdUBLE GRAVEzbGRAVEzbHOOK ABOVE",
  "LATIN SMALL LETTER I WITH INVERTED BREVEzbMACRONzbOGONEKzbRETROFLEX HOOKzbSTROKE",
  "LATIN SMALL LETTER I WITH STROKE AND RETROFLEX HOOKzbTILDEzg BELOWuNSULAR DzcFzcGzcRzcSzcT",
  "LATIN SMALL LETTER INVERTED ALPHAzdOEuOTAx WITH STROKEwIFIED EuStJu WITH CARONzcIRCUMFLEX",
  "LATIN SMALL LETTER J WITH CROSSED-TAILzbSTROKEtKu WITH ACUTEzbCARONzcEDILLAzbDESCENDER",
  "LATIN SMALL LETTER K WITH DIAGONAL STROKEzcOT BELOWzbHOOKzbLINE BELOWzbOBLIQUE STROKE",
  "LATIN SMALL LETTER K WITH PALATAL HOOKzbSTROKEzh AND DIAGONAL STROKEuRAtLu WITH ACUTEzbBARzcELT",
  "LATIN SMALL LETTER L WITH BELT AND PALATAL HOOKzbCARONzcEDILLAzcIRCUMFLEX BELOWzcURLzbDOT BELOW",
  "LATIN SMALL LETTER L WITH DOT BELOW AND MACRONzdUBLE BARziMIDDLE TILDEzbFISHHOOKzbHIGH STROKE",
  "LATIN SMALL LETTER L WITH INVERTED LAZY SzbLINE BELOWzbMIDDLE DOTziRINGziTILDEzbPALATAL HOOK",
  "LATIN SMALL LETTER L WITH RETROFLEX HOOKzp AND BELTzbSTROKEuAMBDA WITH STROKEuENIS FvZH",
  "LATIN SMALL LETTER LEZH WITH RETROFLEX HOOKuJuONG Sz WITH DIAGONAL STROKEzhOT ABOVE",
  "LATIN SMALL LETTER LONG S WITH HIGH STROKEuS DIGRAPHuUMuZ DIGRAPHtMu WITH ACUTEzbCROSSED-TAIL",
  "LATIN SMALL LETTER M WITH DOT ABOVEzfBELOWzbHOOKzbMIDDLE TILDEzbPALATAL HOOKuIDDLE SCOTS S",
  "LATIN SMALL LETTER MIDDLE-WELSH LLzhVuUMtNu PRECEDED BY APOSTROPHEvWITH ACUTEzbCARONzcEDILLA",
  "LATIN SMALL LETTER N WITH CIRCUMFLEX BELOWzcROSSED-TAILzcURLzbDESCENDERzcOT ABOVEzfBELOWzbGRAVE",
  "LATIN SMALL LETTER N WITH LEFT HOOKzcINE BELOWzcONG RIGHT LEGzbMIDDLE TILDEzbOBLIQUE STROKE",
  "LATIN SMALL LETTER N WITH PALATAL HOOKzbRETROFLEX HOOKzbTILDEuJuUMtOu WITH ACUTEzbBREVEzbCARON",
  "LATIN SMALL LETTER O WITH CIRCUMFLEXzl AND ACUTEzqDOT BELOWzqGRAVEzqHOOK ABOVEzqTILDE",
  "LATIN SMALL LETTER O WITH DIAERESISzk AND MACRONzcOT ABOVEzk AND MACRONzfBELOWzdUBLE ACUTE",
  "LATIN SMALL LETTER O WITH DOUBLE GRAVEzbGRAVEzbHOOK ABOVEzdRNzf AND ACUTEzkDOT BELOWzkGRAVE",
  "LATIN SMALL LETTER O WITH HORN AND HOOK ABOVEzkTILDEzbINVERTED BREVEzbLONG STROKE OVERLAYzdOP",
  "LATIN SMALL LETTER O WITH LOW RING INSIDEzbMACRONzh AND ACUTEzmGRAVEzbOGONEKzh AND MACRON",
  "LATIN SMALL LETTER O WITH RETROFLEX HOOKzbSTROKEzh AND ACUTEzbTILDEzg AND ACUTEzlDIAERESIS",
  "LATIN SMALL LETTER O WITH TILDE AND MACRONuIuLD POLISH OuMEGAuOuPEN Ez WITH RETROFLEX HOOKyO",
  "LATIN SMALL LETTER OPEN O WITH RETROFLEX HOOKzgSTROKEzEuUtPu WITH ACUTEzbDOT ABOVEzbFLOURISH",
  "LATIN SMALL LETTER P WITH HOOKzbMIDDLE TILDEzbPALATAL HOOKzbSQUIRREL TAILzcTROKE",
  "LATIN SMALL LETTER P WITH STROKE THROUGH DESCENDERuHItQu WITH DIAGONAL STROKEzbHOOKzf TAIL",
  "LATIN SMALL LETTER Q WITH STROKE THROUGH DESCENDERuP DIGRAPHtRu ROTUNDAvWITH ACUTEzbCARON",
  "LATIN SMALL LETTER R WITH CEDILLAzcROSSED-TAILzbDOT ABOVEzfBELOWzk AND MACRONzdUBLE GRAVE",
  "LATIN SMALL LETTER R WITH FISHHOOKzj AND MIDDLE TILDEzoPALATAL HOOKzbINVERTED BREVEzbLINE BELOW",
  "LATIN SMALL LETTER R WITH LONG LEGzbMIDDLE TILDEzbOBLIQUE STROKEzbPALATAL HOOKzbSTROKEzbTAIL",
  "LATIN SMALL LETTER R WITHOUT HANDLEuAMS HORNuEVERSED Cze WITH DOTzdEzeNGzdHALF HzdKzdOPEN E",
  "LATIN SMALL LETTER REVERSED OPEN E WITH HOOKzpRETROFLEX HOOKzdR WITH FISHHOOKzdSCRIPT GuUM",
  "LATIN SMALL LETTER RUM ROTUNDAtSu WITH ACUTEzg AND DOT ABOVEzbCARONzg AND DOT ABOVEzcEDILLA",
  "LATIN SMALL LETTER S WITH CIRCUMFLEXzcOMMA BELOWzcURLzbDOT ABOVEzfBELOWzk AND DOT ABOVEzbHOOK",
  "LATIN SMALL LETTER S WITH MIDDLE TILDEzbOBLIQUE STROKEzbPALATAL HOOKzbSHORT STROKE OVERLAY",
  "LATIN SMALL LETTER S WITH SWASH TAILuAKHA YATvLTILLOuCHWAy WITH HOOKzfRETROFLEX HOOKvRIPT G",
  "LATIN SMALL LETTER SCRIPT G WITH CROSSED-TAILzbRzc WITH RINGuHARP SuIDEWAYS DIAERESIZED UzdO",
  "LATIN SMALL LETTER SIDEWAYS O WITH STROKEzePEN OzdTURNED MzdUvGMOID SuQUAT REVERSED ESH",
  "LATIN SMALL LETTER STIRRUP RtTu WITH CARONzcEDILLAzcIRCUMFLEX BELOWzcOMMA BELOWzcURLzbDIAERESIS",
  "LATIN SMALL LETTER T WITH DIAGONAL STROKEzcOT ABOVEzfBELOWzbHOOKzf AND RETROFLEX HOOK",
  "LATIN SMALL LETTER T WITH LINE BELOWzbMIDDLE TILDEzbPALATAL HOOKzbRETROFLEX HOOKzbSTROKE",
  "LATIN SMALL LETTER TAILLESS PHIuC DIGRAPH WITH CURLuESH DIGRAPHzg WITH PALATAL HOOK",
  "LATIN SMALL LETTER TESH DIGRAPH WITH RETROFLEX HOOKuH WITH STRIKETHROUGHvORNy WITH STROKE",
  "LATIN SMALL LETTER THORN WITH STROKE THROUGH DESCENDERuONE FIVEySIXyTWOvP HALF OuRESILLO",
  "LATIN SMALL LETTER TS DIGRAPHze WITH RETROFLEX HOOKuUMvRNED AzcEzcLPHAzbDELTAzbEzbGzbH",
  "LATIN SMALL LETTER TURNED H WITH FISHHOOKzq AND TAILzbIzcNSULAR GzbKzbLzbMzc WITH LONG LEG",
  "LATIN SMALL LETTER TURNED O OPEN-Ozj WITH STROKEzcEzd WITH HORIZONTAL STROKEzjSTROKEzcPEN EzbR",
  "LATIN SMALL LETTER TURNED R WITH HOOKziLONG LEGzq AND RETROFLEX HOOKziMIDDLE TILDE",
  "LATIN SMALL LETTER TURNED R WITH PALATAL HOOKziTAILzbTzc WITH CURLzbUIzbVzbWzbYzc WITH BELTuZtU",
  "LATIN SMALL LETTER U BARy WITH SHORT RIGHT LEGvWITH ACUTEzbBREVEzbCARONzcIRCUMFLEXzl BELOW",
  "LATIN SMALL LETTER U WITH DIAERESISzk AND ACUTEzpCARONzpGRAVEzpMACRONzlBELOWzcOT BELOW",
  "LATIN SMALL LETTER U WITH DOUBLE ACUTEziGRAVEzbGRAVEzbHOOK ABOVEzdRNzf AND ACUTEzkDOT BELOW",
  "LATIN SMALL LETTER U WITH HORN AND GRAVEzkHOOK ABOVEzkTILDEzbINVERTED BREVEzbLEFT HOOKzbMACRON",
  "LATIN SMALL LETTER U WITH MACRON AND DIAERESISzbOGONEKzbRETROFLEX HOOKzcING ABOVE",
  "LATIN SMALL LETTER U WITH SHORT RIGHT LEGzcTROKEzbTILDEzg AND ACUTEzhBELOWuEuIuMuOuPSILON",
  "LATIN SMALL LETTER UPSILON WITH STROKEtVu WITH CURLzbDIAGONAL STROKEzcOT BELOWzbHOOK",
  "LATIN SMALL LETTER V WITH PALATAL HOOKzbRIGHT HOOKzbTILDEuENDuISIGOTHIC ZuOLAPUK AEzcOEzcUEuYtW",
  "LATIN SMALL LETTER W WITH ACUTEzbCIRCUMFLEXzbDIAERESISzcOT ABOVEzfBELOWzbGRAVEzbHOOK",
  "LATIN SMALL LETTER W WITH RING ABOVEtXu WITH DIAERESISzcOT ABOVEzbLONG LEFT LEG",
  "LATIN SMALL LETTER X WITH LONG LEFT LEG AND LOW RIGHT RINGzpWITH SERIFzdW RIGHT RING",
  "LATIN SMALL LETTER X WITH PALATAL HOOKtYu WITH ACUTEzbCIRCUMFLEXzbDIAERESISzcOT ABOVEzfBELOW",
  "LATIN SMALL LETTER Y WITH GRAVEzbHOOKzf ABOVEzbLOOPzbMACRONzbRING ABOVEzbSHORT RIGHT LEGzcTROKE",
  "LATIN SMALL LETTER Y WITH TILDEuOGHtZu WITH ACUTEzbCARONzcIRCUMFLEXzcURLzbDESCENDERzcOT ABOVE",
  "LATIN SMALL LETTER Z WITH DOT BELOWzbHOOKzbLINE BELOWzbMIDDLE TILDEzbPALATAL HOOK",
  "LATIN SMALL LETTER Z WITH RETROFLEX HOOKzbSTROKEzcWASH TAILnIGATURE FFxIxLwIwLvIJvLONG S TvOE",
  "LATIN SMALL LIGATURE SThUBSCRIPT SMALL LETTER AzeEzeHzeIzeJzeKzeLzeMzeNzeOzePzeRzeSzfCHWAzeTzeU",
  "LATIN SUBSCRIPT SMALL LETTER VzeXbEAF FLUTTERING IN WINDeY GREENcDGER",
  "LEFT AND LOWER AND RIGHT TRIANGULAR THREE QUARTERS BLOCKpONE EIGHTH BLOCK",
  "LEFT AND RIGHT DOUBLE TURNSTILEpTACKqRIANGULAR HALF BLOCK",
  "LEFT AND UPPER AND RIGHT TRIANGULAR THREE QUARTERS BLOCKpONE EIGHTH BLOCKhGER BUBBLEiLE BRACKET",
  "LEFT ANGLE BRACKET WITH DOTgRC LESS-THAN BRACKEThROW WITH CIRCLED PLUSqSMALL CIRCLE",
  "LEFT BARB DOWN RIGHT BARB DOWN HARPOONzbUP HARPOONkUP RIGHT BARB DOWN HARPOONyUP HARPOON",
  "LEFT BLACK LENTICULAR BRACKETlTORTOISE SHELL BRACKETfCEILINGgLOSED ENTRYgORNER BRACKET",
  "LEFT CURLY BRACKETs LOWER HOOKtMIDDLE PIECEtUPPER HOOKfDOTTED SUBSTITUTION BRACKET",
  "LEFT DOUBLE ANGLE BRACKETmPARENTHESISmQUOTATION MARKmWIGGLY FENCEfFISH TAILhVE EIGHTHS BLOCK",
  "LEFT FLOORfHALF BLACK CIRCLEqSTARmOCKkCIRCLEq WITH DOTwFOUR DOTSwTHREE DOTSxWO DOTSkFOLDER",
  "LEFT HALF INVERSE MEDIUM SHADE AND RIGHT HALF BLOCKkMEDIUM SHADEkRUNNING MAN",
  "LEFT HAND TELEPHONE RECEIVERfLOW PARAPHRASE BRACKETgUGGAGEfMULTIMAP",
  "LEFT NORMAL FACTOR SEMIDIRECT PRODUCTfONE EIGHTH BLOCKjQUARTER BLOCKgUTER JOINfPARENTHESIS",
  "LEFT PARENTHESIS EXTENSIONrLOWER HOOKrUPPER HOOKfRAISED OMISSION BRACKETgIGHT ARROW",
  "LEFT RIGHT ARROW THROUGH SMALL CIRCLErWITH DOUBLE VERTICAL STROKEwSTROKEwVERTICAL STROKE",
  "LEFT RIGHT BLACK ARROWlDOUBLE ARROWx WITH STROKEzeVERTICAL STROKElOPEN-HEADED ARROW",
  "LEFT RIGHT SANS-SERIF ARROWlTRIANGLE-HEADED ARROWlWAVE ARROWmHITE ARROWfS-SHAPED BAG DELIMITER",
  "LEFT SEMIDIRECT PRODUCThVEN EIGHTHS BLOCKgIDEWAYS U BRACKEThNGLE QUOTATION MARKgPEECH BUBBLE",
  "LEFT SQUARE BRACKETt EXTENSIONuLOWER CORNERuUPPER CORNERuWITH DOUBLE STROKEzQUILLzSTROKE",
  "LEFT SQUARE BRACKET WITH TICK IN BOTTOM CORNERziTOP CORNERzUNDERBARgUBSTITUTION BRACKETfTACK",
  "LEFT THIRD WHITE RIGHT POINTING INDEXhOUGHT BUBBLEhREE EIGHTHS BLOCKlQUARTERS BLOCK",
  "LEFT TORTOISE SHELL BRACKETgRANSPOSITION BRACKEThIANGLE BESIDE VERTICAL BAR",
  "LEFT TRIANGULAR ONE QUARTER BLOCKfVERTICAL BAR WITH QUILLpOX LINEfWHITE CORNER BRACKET",
  "LEFT WHITE CURLY BRACKETlLENTICULAR BRACKETlPARENTHESISlSQUARE BRACKETlTORTOISE SHELL BRACKET",
  "LEFT WIGGLY FENCEgRITING HANDe-FACING ARMENIAN ETERNITY SIGNmFISTmSVASTI SIGNx WITH DOTS",
  "LEFT-HANDED INTERLACED PENTAGRAMfPOINTING ANGLE BRACKEToCURVED ANGLE BRACKET",
  "LEFT-POINTING DOUBLE ANGLE QUOTATION MARKoMAGNIFYING GLASSfSHADED WHITE RIGHTWARDS ARROW",
  "LEFT-SIDE ARC ANTICLOCKWISE ARROWfTO-RIGHT EMBEDDINGoISOLATEoMARKoOVERRIDEeWARDS ARROW",
  "LEFTWARDS ARROW ABOVE ALMOST EQUAL TOwREVERSE ALMOST EQUAL TOzfTILDE OPERATOR",
  "LEFTWARDS ARROW ABOVE SHORT RIGHTWARDS ARROWwTILDE OPERATORrND UPPER AND LOWER ONE EIGHTH BLOCK",
  "LEFTWARDS ARROW FROM BARy TO BLACK DIAMONDqOVER RIGHTWARDS ARROWqTHROUGH LESS-THANySUBSETyX",
  "LEFTWARDS ARROW TO BARw OVER RIGHTWARDS ARROW TO BARuLACK DIAMONDqWITH DOTTED STEM",
  "LEFTWARDS ARROW WITH DOUBLE VERTICAL STROKEvEQUILATERAL ARROWHEADvHOOKvLARGE TRIANGLE ARROWHEAD",
  "LEFTWARDS ARROW WITH LOOPvMEDIUM TRIANGLE ARROWHEADvNOTCHED TAILvPLUS BELOW",
  "LEFTWARDS ARROW WITH SMALL EQUILATERAL ARROWHEADzcTRIANGLE ARROWHEADwTROKEvTAIL",
  "LEFTWARDS ARROW WITH TAIL WITH DOUBLE VERTICAL STROKEzgVERTICAL STROKEwIP DOWNWARDSzUPWARDS",
  "LEFTWARDS ARROW WITH VERTICAL STROKEp-TAILkBACK-TILTED SHADOWED WHITE ARROWlLACK ARROW",
  "LEFTWARDS BLACK CIRCLED WHITE ARROWlOTTOM-SHADED WHITE ARROWkCOMPRESSED ARROWkDASHED ARROW",
  "LEFTWARDS DOUBLE ARROWw FROM BARxWITH STROKEzdVERTICAL STROKEw-TAILrDASH ARROW",
  "LEFTWARDS FINGER-POST ARROWlRONT-TILTED SHADOWED WHITE ARROWkHANDmRPOON OVER RIGHTWARDS HARPOON",
  "LEFTWARDS HARPOON WITH BARB DOWN ABOVE RIGHTWARDS HARPOON WITH BARB DOWNziBELOW LONG DASH",
  "LEFTWARDS HARPOON WITH BARB DOWN FROM BARziTO BARzhWARDS",
  "LEFTWARDS HARPOON WITH BARB UP ABOVE LEFTWARDS HARPOON WITH BARB DOWNznONG DASH",
  "LEFTWARDS HARPOON WITH BARB UP ABOVE RIGHTWARDS HARPOON WITH BARB UPzgFROM BARzgTO BARzfWARDS",
  "LEFTWARDS HEAVY ARROWqCOMPRESSED ARROWkLEFT-SHADED WHITE ARROWkOPEN-HEADED ARROWkPAIRED ARROWS",
  "LEFTWARDS QUADRUPLE ARROWkRIGHT-SHADED WHITE ARROWlOCKETkSANS-SERIF ARROWlQUARED ARROW",
  "LEFTWARDS SQUIGGLE ARROWkTOP SHADED WHITE ARROWlRIANGLE ARROWHEADs-HEADED ARROW",
  "LEFTWARDS TRIANGLE-HEADED ARROW OVER RIGHTWARDS TRIANGLE-HEADED ARROWzhTO BARzhWITH BOLD SHAFT",
  "LEFTWARDS TRIANGLE-HEADED ARROW WITH DOUBLE HORIZONTAL STROKEztVERTICAL STROKEzmHEAVY SHAFT",
  "LEFTWARDS TRIANGLE-HEADED ARROW WITH LONG TIP DOWNWARDSzvUPWARDSzmMEDIUM SHAFTzmNARROW SHAFT",
  "LEFTWARDS TRIANGLE-HEADED ARROW WITH VERY HEAVY SHAFTzbDASHED ARROWzbPAIRED ARROWSnPLE ARROW",
  "LEFTWARDS TRIPLE DASH ARROWlWO HEADED ARROWn-HEADED ARROW FROM BARzcWITH DOUBLE VERTICAL STROKE",
  "LEFTWARDS TWO-HEADED ARROW WITH TAILzl WITH DOUBLE VERTICAL STROKEzrVERTICAL STROKE",
  "LEFTWARDS TWO-HEADED ARROW WITH TRIANGLE ARROWHEADSzhVERTICAL STROKEvTRIPLE DASH ARROW",
  "LEFTWARDS WAVE ARROWlHITE ARROWv WITHIN TRIANGLE ARROWHEADcGcMONcOdPARDcPCHA CONSONANT SIGN K",
  "LEPCHA CONSONANT SIGN KANGwLwMwNxYIN-DOwPwRwThDIGIT EIGHTnFIVEoOURnNINEnONEnSEVENoIXnTHREEoWO",
  "LEPCHA DIGIT ZEROhLETTER AoBApLAoCApHAoDApDApZAoFApLAoGApLAoHApLAoJAoKApHApLAoLAoMApLAoNApGApYA",
  "LEPCHA LETTER PApHApLAoRAoSApHAoTApHApSAqHApTAqHAoVAoWAoYAhPUNCTUATION CER-WA",
  "LEPCHA PUNCTUATION NYET THYOOM TA-ROLtTA-ROLuSHOOKz CER-WAhSIGN NUKTAmRANiUBJOINED LETTER RAyYA",
  "LEPCHA VOWEL SIGN AAsEsIsOtOsUtUcSS-THAN ABOVE DOUBLE-LINE EQUAL ABOVE GREATER-THAN",
  "LESS-THAN ABOVE GREATER-THAN ABOVE DOUBLE-LINE EQUALqLEFTWARDS ARROWqSIMILAR ABOVE GREATER-THAN",
  "LESS-THAN ABOVE SIMILAR OR EQUALrLANTED EQUAL ABOVE GREATER-THAN ABOVE SLANTED EQUAL",
  "LESS-THAN AND NOT APPROXIMATEoSINGLE-LINE NOT EQUAL TOkBUT NOT EQUAL TOvIVALENT TO",
  "LESS-THAN CLOSED BY CURVEz ABOVE SLANTED EQUALkEQUAL TO OR GREATER-THANkOR APPROXIMATEnEQUAL TO",
  "LESS-THAN OR EQUIVALENT TOnGREATER-THANnSLANTED EQUAL TOze WITH DOT ABOVEzt RIGHTzoINSIDE",
  "LESS-THAN OVER EQUAL TOkSIGNkWITH CIRCLE INSIDEpDOTpQUESTION MARK ABOVEcVEL SLIDERbFbIBRA",
  "LIGATURE OPEN ET ORNAMENTdHT CHECK MARKgEIGHT SPOKED ASTERISKgFIVE POINTED BLACK STAR",
  "LIGHT FIVE SPOKED ASTERISKhOUR POINTED BLACK CUSPzSTARgGREEK CROSS",
  "LIGHT LEFT TORTOISE SHELL BRACKET ORNAMENTgRAILhIGHT TORTOISE SHELL BRACKET ORNAMENTgSALTIRE",
  "LIGHT SHADEhIX SPOKED ASTERISKgTHREE POINTED BLACK STARhWELVE POINTED BLACK STARgVERTICAL BAR",
  "LIGHT WHITE SQUAREfNINGj MOODo BUBBLEcMBU DIGIT EIGHTmFIVEnOURmNINEmONEmSEVENnIXmTHREEnWOmZERO",
  "LIMBU EXCLAMATION MARKgLETTER BAoHAnCAoHAnDAoHAnGAoHAoYANnHAnJAoHAnKAoHAnLAnMAnNAoGAnPAoHAnRA",
  "LIMBU LETTER SAoHAoSAnTAoHAoRAnWAnYApNgQUESTION MARKgSIGN KEMPHRENGlLOOlMUKPHRENGlSA-I",
  "LIMBU SMALL LETTER ANUSVARAtKAtLAtMAtNAuGAtPAtRAtTAhUBJOINED LETTER RAxWAxYAgVOWEL SIGN AsIsUrE",
  "LIMBU VOWEL SIGN EErIrOsOrUl-CARRIER LETTERdITED LIABILITY SIGNcNE FEED",
  "LINE INTEGRATION NOT INCLUDING THE POLErWITH RECTANGULAR PATH AROUND POLE",
  "LINE INTEGRATION WITH SEMICIRCULAR PATH AROUND POLEfSEPARATORfTABULATIONp SETeAR A SIGN A028B",
  "LINEAR A SIGN A100-102q20Bq31Cp301r2r3r4r5r6r7r8r9AsBsCq10r1r2r3AsBsCr4r5r6r7r8r9q20r1r2r3r4r5",
  "LINEAR A SIGN A326r7r8r9q30r1r2r3r4r5r6r7r8r9q40r1r2r3r4r5r6r7r8r9q50r1r2r3r4r5r6r7r8r9q60r1r2",
  "LINEAR A SIGN A363r4r5r6r7r8r9q70r1p400-VASr1-VASr2-VASr3-VASr4-VASr5-VASr6-VASr7-VASr8-VAS",
  "LINEAR A SIGN A409-VASq10-VASr1-VASr2-VASr3-VASr4-VASr5-VASr6-VASr7-VASr8-VASp501r2r3r4r5r6r8r9",
  "LINEAR A SIGN A510r1r2r3r5r6q20r1r3r4r5r6r7r8r9q30r1r2r4r5r6r7r8r9q40r1r2r5r7r8r9q50r1r2r3r4r5",
  "LINEAR A SIGN A556r7r9q63r4r5r6r8r9q70r1r2r3r4r5r6r7r8r9q80r1r2r3r4r5r6r7r8r9q91r2r4r5r6r8p600",
  "LINEAR A SIGN A601r2r3r4r6r8r9q10r1r2r3r4r5r6r7r8r9q20r1r2r3r4r6r7r8r9q34r7r8q40r2r3r4r5r6r8r9",
  "LINEAR A SIGN A651r2r3r4r5r6r7r8r9q60r1r2r3r4p701 Ar2 Br3 Dr4 Er5 Fr6 Hr7 Jr8 Kr9 Ls-2 L2t3 L3",
  "LINEAR A SIGN A709-4 L4t6 L6q10 Wr1 Xr2 Yr3 OMEGAr4 ABBr5 BBr7 DDq26 EYYYq32 JEp800r1r2r3r4r5r6",
  "LINEAR A SIGN A807pB001s2s3s4s5s6s7s8s9r10s1s3s6s7r20s1tFtMs2tFtMs3tMs4s6s7s8s9r30s1s4s7s8s9r40",
  "LINEAR A SIGN AB041s4s5s6s7s8s9r50s1s3s4s5s6s7s8s9r60s1s5s6s7s9r70s3s4s6s7s8s9r80s1s2s5s6s7q118",
  "LINEAR A SIGN AB120s2s3r31AtBr64r71r80s8r91hB IDEOGRAM B100 MANv2 WOMANv4 DEERv5 EQUIDwF MARE",
  "LINEAR B IDEOGRAM B105M STALLIONv6F EWEwM RAMv7F SHE-GOATwM HE-GOATv8F SOWwM BOARv9F COWwM BULL",
  "LINEAR B IDEOGRAM B120 WHEATv1 BARLEYv2 OLIVEv3 SPICEv5 CYPERUSu30 OILv1 WINEv2u40 BRONZE",
  "LINEAR B IDEOGRAM B141 GOLDv2v5 WOOLv6u50v1 HORNv2v3v4v7v8v9 CLOTHu60v1v2 GARMENTv3 ARMOURv4v5",
  "LINEAR B IDEOGRAM B166v7v8v9u70v1v2v3 MONTHv4v6 TREEv7v8v9u80v1v2v3v4v5v9u90v1 HELMET",
  "LINEAR B IDEOGRAM B220 FOOTSTOOLv5 BATHTUBu30 SPEARv1 ARROWv2v3 SWORDv4v6u40 WHEELED CHARIOT",
  "LINEAR B IDEOGRAM B241 CHARIOTv2 CHARIOT FRAMEv3 WHEELv5v6v8v9u51v2v3v4 DARTv5v6v7v8v9",
  "LINEAR B IDEOGRAM VESSEL B155zb200zd1zd2zd3zd4zd5zd6zd7zd8zd9zc10zd1zd2zd3zd4zd5zd6zd7zd8zd9",
  "LINEAR B IDEOGRAM VESSEL B221zd2zd6zd7zd8zd9zc50zb305jMONOGRAM B127 KAPOv8 KANAKOu33 AREPA",
  "LINEAR B MONOGRAM B135 MERIu56 TURO2t247 DIPTEjSYLLABLE B001 DAv2 ROv3 PAv4 TEv5 TOv6 NAv7 DI",
  "LINEAR B SYLLABLE B008 Av9 SEu10 Uv1 POv2 SOv3 MEv4 DOv5 MOv6 QAv7 ZAu20 ZOv1 QIv3 MUv4 NEv5 A2",
  "LINEAR B SYLLABLE B026 RUv7 REv8 Iv9 PU2u30 NIv1 SAv2 QOv3 RA3v6 JOv7 TIv8 Ev9 PIu40 WIv1 SI",
  "LINEAR B SYLLABLE B042 WOv3 A3v4 KEv5 DEv6 JEv8 NWAu50 PUv1 DUv2 NOv3 RIv4 WAv5 NUv7 JAv8 SU",
  "LINEAR B SYLLABLE B059 TAu60 RAv1 Ov2 PTEv5 JUv6 TA2v7 KIv8 RO2v9 TUu70 KOv1 DWEv2 PEv3 MIv4 ZE",
  "LINEAR B SYLLABLE B075 WEv6 RA2v7 KAv8 QEu80 MAv1 KUv5 AUv7 TWEu90 DWOv1 TWOlMBOL B018t9s22s34",
  "LINEAR B SYMBOL B047t9s56s63t4s79s82t3t6t9dK SYMBOLeED PAPERCLIPScON FACEcPSeTICKcRA SIGN",
  "LISU LETTER AnEmBAmCAnHAmDAnZAmEnUmFAmGAnHAmHAnHAmImJAmKAnHAmLAmMAmNAnGAmOnEmPAnHAmSAnHAmTAnHA",
  "LISU LETTER TONE MYA BOvCYAvJEUvNAvTIrNA POnSAoHAmUnEnHmWAmXAmYAnHAmZAnHAfPUNCTUATION COMMA",
  "LISU PUNCTUATION FULL STOPcVRE TOURNOIS SIGNcZARDbLAMAbOBSTERcCKe WITH INK PENeING-SHIFT ONE",
  "LOCKING-SHIFT ZEROcGICAL ANDl WITH DOT ABOVEtUBLE OVERBARyUNDERBARrHORIZONTAL DASHrMIDDLE STEM",
  "LOGICAL AND WITH UNDERBARiORk OVERLAPPING LOGICAL ANDlWITH DOT ABOVEsUBLE OVERBARxUNDERBAR",
  "LOGICAL OR WITH HORIZONTAL DASHqMIDDLE STEMcLLIPOPcNG DASH FROM LEFT MEMBER OF DOUBLE VERTICAL",
  "LONG DIVISIONgRUMfLEFT RIGHT ARROWqDOUBLE ARROWkTACKjWARDS ARROWu FROM BARpDOUBLE ARROW",
  "LONG LEFTWARDS DOUBLE ARROW FROM BARpSQUIGGLE ARROWfRIGHT TACKkWARDS ARROWv FROM BAR",
  "LONG RIGHTWARDS DOUBLE ARROWzd FROM BARqSQUIGGLE ARROWcTION BOTTLEdUScUDLY CRYING FACEcVE HOTEL",
  "LOVE LETTERcW ASTERISKeBATTERYfRIGHTNESS SYMBOLeDOUBLE PRIME QUOTATION MARKeKAVYKAk WITH DOT",
  "LOW LINEdER BLADE SCISSORSgFIVE EIGHTHS BLOCKgHALF BLOCKlCIRCLElINVERSE WHITE CIRCLE",
  "LOWER HALF MEDIUM SHADEgLEFT BALLPOINT PENmLOCK DIAGONAL LOWER MIDDLE LEFT TO LOWER CENTRE",
  "LOWER LEFT BLOCK DIAGONAL LOWER MIDDLE LEFT TO LOWER RIGHTzbUPPER CENTRE TO LOWER MIDDLE RIGHT",
  "LOWER LEFT BLOCK DIAGONAL UPPER CENTRE TO LOWER RIGHTzrUPPER MIDDLE RIGHTzhLEFT TO LOWER CENTRE",
  "LOWER LEFT BLOCK DIAGONAL UPPER LEFT TO LOWER MIDDLE RIGHTzpUPPER MIDDLE RIGHT",
  "LOWER LEFT BLOCK DIAGONAL UPPER MIDDLE LEFT TO LOWER CENTREzzdMIDDLE RIGHTzzdRIGHTlCRAYON",
  "LOWER LEFT FOUNTAIN PENlPAINTBRUSHmENCILlQUADRANT CIRCULAR ARClSEMICIRCULAR ANTICLOCKWISE ARROW",
  "LOWER LEFT TRIANGLErULAR MEDIUM SHADEgONE EIGHTH BLOCKkQUARTER BLOCK",
  "LOWER RIGHT BLOCK DIAGONAL LOWER CENTRE TO LOWER MIDDLE RIGHTzsUPPER MIDDLE RIGHTzyRIGHT",
  "LOWER RIGHT BLOCK DIAGONAL LOWER LEFT TO LOWER MIDDLE RIGHTzqUPPER CENTREzwMIDDLE RIGHT",
  "LOWER RIGHT BLOCK DIAGONAL LOWER MIDDLE LEFT TO UPPER CENTREzzeMIDDLE RIGHTzzeRIGHT",
  "LOWER RIGHT BLOCK DIAGONAL UPPER MIDDLE LEFT TO UPPER CENTREzzeRIGHTmCORNER WITH DOT",
  "LOWER RIGHT DROP-SHADOWED WHITE SQUAREmPENCILmQUADRANT CIRCULAR ARC",
  "LOWER RIGHT SEMICIRCULAR CLOCKWISE ARROWnHADOWED WHITE CIRCLEzcSQUAREmTRIANGLE",
  "LOWER RIGHT TRIANGULAR MEDIUM SHADEgSEVEN EIGHTHS BLOCKgTHREE EIGHTHS BLOCKmQUARTERS BLOCK",
  "LOWER TRIANGULAR ONE QUARTER BLOCKcZENGEh DIVIDED BY HORIZONTAL RULEbREcIcMcObUGGAGEcNGS",
  "LYCIAN LETTER ApNoBpHoDoEpNoGoHoIoJoKpKoLoMpMoNpNoPoQoRoSoTpHpToUoWoXoZcDIAN LETTER ApNoBoCoDoE",
  "LYDIAN LETTER ENoFoGoIoKoLpYoMoNpNoOoQoRoSpSoTpToUoVoYhTRIANGULAR MARKcING FACEaMACRONcGE",
  "MAGIC WANDdNETcHAJANI ABBREVIATION SIGNjLETTER AqBArHAqCArHAqDArDAsHArHAqEqGArHAqHAqIqJArHAqKA",
  "MAHAJANI LETTER KHAqLAqMAqNArNArYAqOqPArHAqRArRAqSAqTArHArTAsHAqUqVAkIGATURE SHRIjSECTION MARK",
  "MAHAJANI SIGN NUKTAdJONG TILE AUTUMNnBACKpMBOOnCHRYSANTHEMUMnEAST WINDoIGHT OF BAMBOOS",
  "MAHJONG TILE EIGHT OF CHARACTERSxIRCLESnFIVE OF BAMBOOSvCHARACTERSwIRCLESoOUR OF BAMBOOS",
  "MAHJONG TILE FOUR OF CHARACTERSwIRCLESnGREEN DRAGONnJOKERnNINE OF BAMBOOSvCHARACTERSwIRCLES",
  "MAHJONG TILE NORTH WINDnONE OF BAMBOOSuCHARACTERSvIRCLESoRCHIDnPLUMnRED DRAGONnSEVEN OF BAMBOOS",
  "MAHJONG TILE SEVEN OF CHARACTERSxIRCLESoIX OF BAMBOOSuCHARACTERSvIRCLESoOUTH WINDoPRINGoUMMER",
  "MAHJONG TILE THREE OF BAMBOOSwCHARACTERSxIRCLESoWO OF BAMBOOSuCHARACTERSvIRCLESnWEST WIND",
  "MAHJONG TILE WHITE DRAGONoINTERcKASAR ANGKAiEND OF SECTIONiLETTER ApBApCApDApGApJApKApLApMApNA",
  "MAKASAR LETTER NGAqYApPApRApSApTApVApYAiPASSIMBANGiVOWEL SIGN EtItOtUcLAYALAM AU LENGTH MARK",
  "MALAYALAM DATE MARKlIGIT EIGHTqFIVErOURqNINEqONEqSEVENrIXqTHREErWOqZEROkFRACTION ONE EIGHTH",
  "MALAYALAM FRACTION ONE FIFTHyORTIETHxHALFxONE-HUNDRED-AND-SIXTIETHxQUARTERxSIXTEENTHxTENTH",
  "MALAYALAM FRACTION ONE TWENTIETHtTHREE EIGHTIETHSzQUARTERSzSIXTEENTHSzTWENTIETHSkLETTER AsAsI",
  "MALAYALAM LETTER ARCHAIC IIsUrBAsHArCAsHAtILLU KyLzLzbLyMyNzNyRRyYrDAsDAtHAsHAsOT REPHrEsErGA",
  "MALAYALAM LETTER GHArHArIsIrJAsHArKAsHArLAsLAtLArMArNAsGAsNAtNAsYArOsOrPAsHArRAsRArSAsHAsSArTA",
  "MALAYALAM LETTER THAsTAtHAtTArUsUrVAsEDIC ANUSVARAsOCALIC LzbLzRzbRrYAkNUMBER ONE HUNDRED",
  "MALAYALAM NUMBER ONE THOUSANDrTENkSIGN ANUSVARAqVAGRAHApCANDRABINDUqIRCULAR VIRAMA",
  "MALAYALAM SIGN COMBINING ANUSVARA ABOVEpPARApVERTICAL BAR VIRAMAqIRAMArSARGAkVOWEL SIGN AAwIwU",
  "MALAYALAM VOWEL SIGN EwEvIwIvOwOvUwUvVOCALIC LzfLzeRzfRdE AND FEMALE SIGNfSIGN",
  "MALE WITH STROKE AND MALE AND FEMALE SIGNrSIGNdTESE CROSScMMOTHcNd AND WOMAN HOLDING HANDS",
  "MAN DANCINGeIN BUSINESS SUIT LEVITATINGhTUXEDOeWITH GUA PI MAOjTURBANdAT SIGN",
  "MANDAIC AFFRICATION MARKiGEMINATION MARKiLETTER ABqDqGqHqINqKrSAqLqMqNqPqQqRqSrHrZqTrTqZ",
  "MANDAIC LETTER DUSHENNApHALQApINqTpKADpUSHENNAiPUNCTUATIONiVOCALIZATION MARKdGO",
  "MANICHAEAN ABBREVIATION MARK ABOVEzeBELOWlLETTER AAYINtLEPHtYINsBETHtHETHsDALETHtHAMEDHsFE",
  "MANICHAEAN LETTER GHIMELtIMELsHEuTHsJAYINtHAYINsKAPHtHAPHsLAMEDHsMEMsNUNsPEsQHOPHtOPHsRESH",
  "MANICHAEAN LETTER SADHEuMEKHtHINtSHINsTAWtETHtHAMEDHsWAWsXAPHtOPHsYODHsZAYINtHAYINlNUMBER FIVE",
  "MANICHAEAN NUMBER ONEv HUNDREDsTENtWENTYlPUNCTUATION DOTzb WITHIN DOTzUBLE DOT WITHIN DOT",
  "MANICHAEAN PUNCTUATION FLEURONxLINE FILLERxSTARxTWO DOTSlSIGN UDdS SHOEdTELPIECE CLOCK",
  "MANUAL WHEELCHAIRcP SYMBOL FOR LIGHTHOUSEdLE LEAFcRCHEN HEAD MARKiLETTER -ApApBApCAqHApDAqZApGA",
  "MARCHEN LETTER HApJApKAqHApLApMApNAqGAqYApPAqHApRApSAqHApTAqHAqSArHApWApYApZAqHAiMARK SHAD",
  "MARCHEN SIGN ANUSVARAnCANDRABINDUjUBJOINED LETTER AzBAzCAzbHAzDAzbZAzGAzHAzJAzKAzbHAzLAzMAzNA",
  "MARCHEN SUBJOINED LETTER NGAzbYAzPAzbHAzRAzSAzbHAzTAzbHAzbSAzcHAzWAzYAzZAzbHAiVOWEL SIGN AAtEtI",
  "MARCHEN VOWEL SIGN OtUdRIAGE SYMBOLdTIAL ARTS UNIFORMcSARAM GONDI DIGIT EIGHTuFIVEvOURuNINEuONE",
  "MASARAM GONDI DIGIT SEVENvIXuTHREEvWOuZEROoLETTER AwAwIwUvBAwHAvCAwHAvDAwDAxHAwHAvEvGAwHAvHAvI",
  "MASARAM GONDI LETTER IIvJAwHAwNYAvKAwHAwSSAvLAwLAvMAvNAwGAwNAwYAvOvPAwHAvRAvSAwHAwSAvTAwHAwRA",
  "MASARAM GONDI LETTER TTAxHAvUwUvVAvYAoRA-KARApEPHAoSIGN ANUSVARAtCANDRAtHALANTAtNUKTAtVISARGA",
  "MASARAM GONDI VIRAMApOWEL SIGN AAzbIzbUzEzIzbIzOzUzbUzVOCALIC RdCULINE ORDINAL INDICATOR",
  "MASK WORK SYMBOLdU MARKcTE DRINKdHEMATICAL BOLD CAPITAL AzcLPHAzbBzcETAzbCzcHIzbDzcELTAzcIGAMMA",
  "MATHEMATICAL BOLD CAPITAL EzcPSILONzcTAzbFzbGzcAMMAzbHzbIzcOTAzbJzbKzcAPPAzbLzcAMDAzbMzcUzbNzcU",
  "MATHEMATICAL BOLD CAPITAL OzcMEGAzdICRONzbPzcHIzcIzcSIzbQzbRzcHOzbSzcIGMAzbTzcAUzcHETAzg SYMBOL",
  "MATHEMATICAL BOLD CAPITAL UzcPSILONzbVzbWzbXzcIzbYzbZzcETAsDIGIT EIGHTyFIVEzOURyNINEyONEySEVEN",
  "MATHEMATICAL BOLD DIGIT SIXyTHREEzWOyZEROsEPSILON SYMBOLsFRAKTUR CAPITAL AzjBzjCzjDzjEzjFzjGzjH",
  "MATHEMATICAL BOLD FRAKTUR CAPITAL IzjJzjKzjLzjMzjNzjOzjPzjQzjRzjSzjTzjUzjVzjWzjXzjYzjZzbSMALL A",
  "MATHEMATICAL BOLD FRAKTUR SMALL BzhCzhDzhEzhFzhGzhHzhIzhJzhKzhLzhMzhNzhOzhPzhQzhRzhSzhTzhUzhV",
  "MATHEMATICAL BOLD FRAKTUR SMALL WzhXzhYzhZsITALIC CAPITAL AzjLPHAziBzjETAziCzjHIziDzjELTAziE",
  "MATHEMATICAL BOLD ITALIC CAPITAL EPSILONzjTAziFziGzjAMMAziHziIzjOTAziJziKzjAPPAziLzjAMDAziMzjU",
  "MATHEMATICAL BOLD ITALIC CAPITAL NzjUziOzjMEGAzkICRONziPzjHIzjIzjSIziQziRzjHOziSzjIGMAziTzjAU",
  "MATHEMATICAL BOLD ITALIC CAPITAL THETAzn SYMBOLziUzjPSILONziVziWziXzjIziYziZzjETA",
  "MATHEMATICAL BOLD ITALIC EPSILON SYMBOLzKAPPA SYMBOLzNABLAzPARTIAL DIFFERENTIALzbHI SYMBOL",
  "MATHEMATICAL BOLD ITALIC PI SYMBOLzRHO SYMBOLzSMALL AzhLPHAzgBzhETAzgCzhHIzgDzhELTAzgEzhPSILON",
  "MATHEMATICAL BOLD ITALIC SMALL ETAzgFzhINAL SIGMAzgGzhAMMAzgHzgIzhOTAzgJzgKzhAPPAzgLzhAMDAzgM",
  "MATHEMATICAL BOLD ITALIC SMALL MUzgNzhUzgOzhMEGAziICRONzgPzhHIzhIzhSIzgQzgRzhHOzgSzhIGMAzgTzhAU",
  "MATHEMATICAL BOLD ITALIC SMALL THETAzgUzhPSILONzgVzgWzgXzhIzgYzgZzhETAzTHETA SYMBOL",
  "MATHEMATICAL BOLD KAPPA SYMBOLsNABLAsPARTIAL DIFFERENTIALtHI SYMBOLtI SYMBOLsRHO SYMBOL",
  "MATHEMATICAL BOLD SCRIPT CAPITAL AziBziCziDziEziFziGziHziIziJziKziLziMziNziOziPziQziRziSziTziU",
  "MATHEMATICAL BOLD SCRIPT CAPITAL VziWziXziYziZzSMALL AzgBzgCzgDzgEzgFzgGzgHzgIzgJzgKzgLzgMzgN",
  "MATHEMATICAL BOLD SCRIPT SMALL OzgPzgQzgRzgSzgTzgUzgVzgWzgXzgYzgZtMALL AzLPHAyBzETAyCzHIyDzELTA",
  "MATHEMATICAL BOLD SMALL DIGAMMAyEzPSILONzTAyFzINAL SIGMAyGzAMMAyHyIzOTAyJyKzAPPAyLzAMDAyMzUyNzU",
  "MATHEMATICAL BOLD SMALL OzMEGAzbICRONyPzHIzIzSIyQyRzHOySzIGMAyTzAUzHETAyUzPSILONyVyWyXzIyYyZ",
  "MATHEMATICAL BOLD SMALL ZETAsTHETA SYMBOLnDOUBLE-STRUCK CAPITAL AzkBzkDzkEzkFzkGzkIzkJzkKzkLzkM",
  "MATHEMATICAL DOUBLE-STRUCK CAPITAL OzkSzkTzkUzkVzkWzkXzkYzcDIGIT EIGHTziFIVEzjOURziNINEziONE",
  "MATHEMATICAL DOUBLE-STRUCK DIGIT SEVENzjIXziTHREEzjWOziZEROzcSMALL AziBziCziDziEziFziGziHziIziJ",
  "MATHEMATICAL DOUBLE-STRUCK SMALL KziLziMziNziOziPziQziRziSziTziUziVziWziXziYziZ",
  "MATHEMATICAL FALLING DIAGONALoRAKTUR CAPITAL AzeBzeDzeEzeFzeGzeJzeKzeLzeMzeNzeOzePzeQzeSzeTzeU",
  "MATHEMATICAL FRAKTUR CAPITAL VzeWzeXzeYvSMALL AzcBzcCzcDzcEzcFzcGzcHzcIzcJzcKzcLzcMzcNzcOzcPzcQ",
  "MATHEMATICAL FRAKTUR SMALL RzcSzcTzcUzcVzcWzcXzcYzcZnITALIC CAPITAL AzeLPHAzdBzeETAzdCzeHIzdD",
  "MATHEMATICAL ITALIC CAPITAL DELTAzdEzePSILONzeTAzdFzdGzeAMMAzdHzdIzeOTAzdJzdKzeAPPAzdLzeAMDAzdM",
  "MATHEMATICAL ITALIC CAPITAL MUzdNzeUzdOzeMEGAzfICRONzdPzeHIzeIzeSIzdQzdRzeHOzdSzeIGMAzdTzeAU",
  "MATHEMATICAL ITALIC CAPITAL THETAzi SYMBOLzdUzePSILONzdVzdWzdXzeIzdYzdZzeETAuEPSILON SYMBOL",
  "MATHEMATICAL ITALIC KAPPA SYMBOLuNABLAuPARTIAL DIFFERENTIALvHI SYMBOLvI SYMBOLuRHO SYMBOL",
  "MATHEMATICAL ITALIC SMALL AzcLPHAzbBzcETAzbCzcHIzbDzcELTAzcOTLESS IzjJzbEzcPSILONzcTAzbF",
  "MATHEMATICAL ITALIC SMALL FINAL SIGMAzbGzcAMMAzbIzcOTAzbJzbKzcAPPAzbLzcAMDAzbMzcUzbNzcUzbO",
  "MATHEMATICAL ITALIC SMALL OMEGAzdICRONzbPzcHIzcIzcSIzbQzbRzcHOzbSzcIGMAzbTzcAUzcHETAzbUzcPSILON",
  "MATHEMATICAL ITALIC SMALL VzbWzbXzcIzbYzbZzcETAuTHETA SYMBOLnLEFT ANGLE BRACKET",
  "MATHEMATICAL LEFT DOUBLE ANGLE BRACKETsFLATTENED PARENTHESISsWHITE SQUARE BRACKET",
  "MATHEMATICAL LEFT WHITE TORTOISE SHELL BRACKETnMONOSPACE CAPITAL AzgBzgCzgDzgEzgFzgGzgHzgIzgJ",
  "MATHEMATICAL MONOSPACE CAPITAL KzgLzgMzgNzgOzgPzgQzgRzgSzgTzgUzgVzgWzgXzgYzgZxDIGIT EIGHTzeFIVE",
  "MATHEMATICAL MONOSPACE DIGIT FOURzeNINEzeONEzeSEVENzfIXzeTHREEzfWOzeZEROxSMALL AzeBzeCzeDzeEzeF",
  "MATHEMATICAL MONOSPACE SMALL GzeHzeIzeJzeKzeLzeMzeNzeOzePzeQzeRzeSzeTzeUzeVzeWzeXzeYzeZ",
  "MATHEMATICAL RIGHT ANGLE BRACKETtDOUBLE ANGLE BRACKETtFLATTENED PARENTHESIS",
  "MATHEMATICAL RIGHT WHITE SQUARE BRACKETzTORTOISE SHELL BRACKETpSING DIAGONAL",
  "MATHEMATICAL SANS-SERIF BOLD CAPITAL AznLPHAzmBznETAzmCznHIzmDznELTAzmEznPSILONznTAzmFzmGznAMMA",
  "MATHEMATICAL SANS-SERIF BOLD CAPITAL HzmIznOTAzmJzmKznAPPAzmLznAMDAzmMznUzmNznUzmOznMEGAzoICRON",
  "MATHEMATICAL SANS-SERIF BOLD CAPITAL PznHIznIznSIzmQzmRznHOzmSznIGMAzmTznAUznHETAzr SYMBOLzmU",
  "MATHEMATICAL SANS-SERIF BOLD CAPITAL UPSILONzmVzmWzmXznIzmYzmZznETAzeDIGIT EIGHTzkFIVEzlOUR",
  "MATHEMATICAL SANS-SERIF BOLD DIGIT NINEzkONEzkSEVENzlIXzkTHREEzlWOzkZEROzeEPSILON SYMBOL",
  "MATHEMATICAL SANS-SERIF BOLD ITALIC CAPITAL AzuLPHAztBzuETAztCzuHIztDzuELTAztEzuPSILONzuTAztF",
  "MATHEMATICAL SANS-SERIF BOLD ITALIC CAPITAL GzuAMMAztHztIzuOTAztJztKzuAPPAztLzuAMDAztMzuUztNzuU",
  "MATHEMATICAL SANS-SERIF BOLD ITALIC CAPITAL OzuMEGAzvICRONztPzuHIzuIzuSIztQztRzuHOztSzuIGMAztT",
  "MATHEMATICAL SANS-SERIF BOLD ITALIC CAPITAL TAUzuHETAzy SYMBOLztUzuPSILONztVztWztXzuIztYztZ",
  "MATHEMATICAL SANS-SERIF BOLD ITALIC CAPITAL ZETAzlEPSILON SYMBOLzlKAPPA SYMBOLzlNABLA",
  "MATHEMATICAL SANS-SERIF BOLD ITALIC PARTIAL DIFFERENTIALzmHI SYMBOLzmI SYMBOLzlRHO SYMBOL",
  "MATHEMATICAL SANS-SERIF BOLD ITALIC SMALL AzsLPHAzrBzsETAzrCzsHIzrDzsELTAzrEzsPSILONzsTAzrF",
  "MATHEMATICAL SANS-SERIF BOLD ITALIC SMALL FINAL SIGMAzrGzsAMMAzrHzrIzsOTAzrJzrKzsAPPAzrLzsAMDA",
  "MATHEMATICAL SANS-SERIF BOLD ITALIC SMALL MzsUzrNzsUzrOzsMEGAztICRONzrPzsHIzsIzsSIzrQzrRzsHOzrS",
  "MATHEMATICAL SANS-SERIF BOLD ITALIC SMALL SIGMAzrTzsAUzsHETAzrUzsPSILONzrVzrWzrXzsIzrYzrZzsETA",
  "MATHEMATICAL SANS-SERIF BOLD ITALIC THETA SYMBOLzeKAPPA SYMBOLzeNABLAzePARTIAL DIFFERENTIAL",
  "MATHEMATICAL SANS-SERIF BOLD PHI SYMBOLzfI SYMBOLzeRHO SYMBOLzeSMALL AzlLPHAzkBzlETAzkCzlHIzkD",
  "MATHEMATICAL SANS-SERIF BOLD SMALL DELTAzkEzlPSILONzlTAzkFzlINAL SIGMAzkGzlAMMAzkHzkIzlOTAzkJ",
  "MATHEMATICAL SANS-SERIF BOLD SMALL KzlAPPAzkLzlAMDAzkMzlUzkNzlUzkOzlMEGAzmICRONzkPzlHIzlIzlSI",
  "MATHEMATICAL SANS-SERIF BOLD SMALL QzkRzlHOzkSzlIGMAzkTzlAUzlHETAzkUzlPSILONzkVzkWzkXzlIzkYzkZ",
  "MATHEMATICAL SANS-SERIF BOLD SMALL ZETAzeTHETA SYMBOLyCAPITAL AzhBzhCzhDzhEzhFzhGzhHzhIzhJzhK",
  "MATHEMATICAL SANS-SERIF CAPITAL LzhMzhNzhOzhPzhQzhRzhSzhTzhUzhVzhWzhXzhYzhZyDIGIT EIGHTzfFIVE",
  "MATHEMATICAL SANS-SERIF DIGIT FOURzfNINEzfONEzfSEVENzgIXzfTHREEzgWOzfZEROyITALIC CAPITAL AzoB",
  "MATHEMATICAL SANS-SERIF ITALIC CAPITAL CzoDzoEzoFzoGzoHzoIzoJzoKzoLzoMzoNzoOzoPzoQzoRzoSzoTzoU",
  "MATHEMATICAL SANS-SERIF ITALIC CAPITAL VzoWzoXzoYzoZzgSMALL AzmBzmCzmDzmEzmFzmGzmHzmIzmJzmKzmL",
  "MATHEMATICAL SANS-SERIF ITALIC SMALL MzmNzmOzmPzmQzmRzmSzmTzmUzmVzmWzmXzmYzmZySMALL AzfBzfCzfD",
  "MATHEMATICAL SANS-SERIF SMALL EzfFzfGzfHzfIzfJzfKzfLzfMzfNzfOzfPzfQzfRzfSzfTzfUzfVzfWzfXzfYzfZ",
  "MATHEMATICAL SCRIPT CAPITAL AzdCzdDzdGzdJzdKzdNzdOzdPzdQzdSzdTzdUzdVzdWzdXzdYzdZuSMALL AzbBzbC",
  "MATHEMATICAL SCRIPT SMALL DzbFzbHzbIzbJzbKzbLzbMzbNzbPzbQzbRzbSzbTzbUzbVzbWzbXzbYzbZcXIMIZE",
  "MAYAN NUMERAL EIGHTtEENpLEVENoFIFTEENqVEpOURsTEENoNINEsTEENoONEoSEVENtTEENpIXrTEENoTENpHIRTEEN",
  "MAYAN NUMERAL THREEpWELVEqOoZERObEASURED ANGLEo OPENING LEFT",
  "MEASURED ANGLE WITH OPEN ARM ENDING IN ARROW POINTING DOWN AND LEFTzznRIGHTzzeLEFT AND DOWN",
  "MEASURED ANGLE WITH OPEN ARM ENDING IN ARROW POINTING LEFT AND UPzzeRIGHT AND DOWNzzoUP",
  "MEASURED ANGLE WITH OPEN ARM ENDING IN ARROW POINTING UP AND LEFTzzlRIGHTjBY",
  "MEASURED RIGHT ANGLE WITH DOTdT ON BONEcCHANICAL ARMlLEGcDEFAIDRIN CAPITAL LETTER AzdIzdTIUzcB",
  "MEDEFAIDRIN CAPITAL LETTER CzcDzcEzcFzcGzcHzdPzcIzcJzcKzdPzcLzcMzcNzdGzdYzcOzdEzcPzcQzcRzcSzcT",
  "MEDEFAIDRIN CAPITAL LETTER UzcVzcWzcXzcYzdUzcZnOMMAmDIGIT EIGHTsFIVEtOURsNINEsONE",
  "MEDEFAIDRIN DIGIT ONE ALTERNATE FORMsSEVENtIXsTHREEx ALTERNATE FORMtWOv ALTERNATE FORMsZERO",
  "MEDEFAIDRIN EXCLAMATION OHmFULL STOPmNUMBER EIGHTEENuLEVENtFIFTEENuOURTEENtNINETEENtSEVENTEEN",
  "MEDEFAIDRIN NUMBER SIXTEENtTENuHIRTEENuWELVEmSMALL LETTER AzbIzbTIUzBzCzDzEzFzGzHzbPzIzJzKzbPzL",
  "MEDEFAIDRIN SMALL LETTER MzNzbGzbYzOzbEzPzQzRzSzTzUzVzWzXzYzbUzZnYMBOL AIVAdIEVAL COMMA",
  "MEDIEVAL EXCLAMATION MARKjQUESTION MARKeUM BLACK CIRCLEiOLD WHITE CIRCLE",
  "MEDIUM EIGHT POINTED BLACK STARnSPOKED ASTERISKhFIVE SPOKED ASTERISK",
  "MEDIUM FLATTENED LEFT PARENTHESIS ORNAMENTrRIGHT PARENTHESIS ORNAMENTiOUR POINTED BLACK STAR",
  "MEDIUM FOUR POINTED PINWHEEL STARhGREEK CROSShLEFT CURLY BRACKET ORNAMENTmPARENTHESIS ORNAMENT",
  "MEDIUM LEFT-POINTING ANGLE BRACKET ORNAMENThMATHEMATICAL SPACEhRIGHT CURLY BRACKET ORNAMENT",
  "MEDIUM RIGHT PARENTHESIS ORNAMENTm-POINTING ANGLE BRACKET ORNAMENThSALTIREiHADE",
  "MEDIUM SIX POINTED BLACK STARlSPOKED ASTERISKiMALL WHITE CIRCLEhTHREE POINTED BLACK STAR",
  "MEDIUM THREE POINTED PINWHEEL STARhVERTICAL BARhWHITE CIRCLEnSQUAREcETEI MAYEK AHANG KHUDAMoNJI",
  "MEETEI MAYEK APUN IYEKnCHEIKHANtEInDIGIT EIGHTtFIVEuOURtNINEtONEtSEVENuIXtTHREEuWOtZERO",
  "MEETEI MAYEK LETTER ATIYAuBAvHAMuCHAwILuDDAwHAvHOUvILuEuGHOUvOKuHUKuIv LONSUMuJHAMvILuKHOUvOK",
  "MEETEI MAYEK LETTER KOK LONSUMuLAIx LONSUMuMITx LONSUMuNAw LONSUMvGOUy LONSUMvNAvYAuOuPA",
  "MEETEI MAYEK LETTER PA LONSUMvHAMuRAIuSAMvHAvSAuTHOUvILx LONSUMvTAwHAuUNuWAIuYANGoUM IYEK",
  "MEETEI MAYEK SYLLABLE REPETITION MARKnVIRAMAoOWEL SIGN AAIzbUzNAPzUyCHEINAPyIIzNAPyNUNGyONAP",
  "MEETEI MAYEK VOWEL SIGN SOUNAPyUNAPzUyVISARGAyYENAPnWORD REPETITION MARKcLONdTING FACEcMO",
  "MENDE KIKAKUI COMBINING NUMBER HUNDRED THOUSANDSznSzgMILLIONSzgTEENSziN THOUSANDSzjSzhHOUSANDS",
  "MENDE KIKAKUI DIGIT EIGHTuFIVEvOURuNINEuONEuSEVENvIXuTHREEvWOoSYLLABLE M001 KIzb2 KAzb3 KU",
  "MENDE KIKAKUI SYLLABLE M004 WIzb5 WAzb6 WUzb7 MINzb8 MANzb9 MUNz10 BIzb1 BAzb2 BUzb3 Izb4 A",
  "MENDE KIKAKUI SYLLABLE M015 Uzb6 DIzb7 DAzb8 DUzb9 SIz20 SAzb1 SUzb2 TIzb3 TAzb4 TUzb5 LIzb6 LA",
  "MENDE KIKAKUI SYLLABLE M027 LUzb8 JIzb9 JAz30 JUzb1 YIzb2 YAzb3 YUzb4 FIzb5 FAzb6 FUzb7 NIN",
  "MENDE KIKAKUI SYLLABLE M038 NANzb9 NUNz40 HEEzb1 HAzb2 HOOzb3 NGGAzb4 KPEEzb5 WOzb6 HUAN",
  "MENDE KIKAKUI SYLLABLE M047 MBEEzb8 KOzb9 WVAz50 PUzb1 PEzb2 HENzb3 HINzb4 LOOzb5 TEzb6 GBA",
  "MENDE KIKAKUI SYLLABLE M057 NGONzb8 NYANzb9 MENz60 NYONzb1 WVIzb2 MBAzb3 JOzb4 NDOzb5 KEEzb6 PO",
  "MENDE KIKAKUI SYLLABLE M067 NDOOzb8 PIzb9 TOz70 GBOzb1 GBOOzb2 MBEzb3 LEzb4 KPUzb5 FEzb6 KOO",
  "MENDE KIKAKUI SYLLABLE M077 VOzb8 FEEzb9 SOz80 YEzb1 PEEzb2 NGGUzb3 HEEIzb4 LEEzb5 VE",
  "MENDE KIKAKUI SYLLABLE M086 LONG NGGEzb7 HUNzb8 FOzb9 DEEz90 NGGIzb1 TEEzb2 KPAzb3 GBEEzb4 MON",
  "MENDE KIKAKUI SYLLABLE M095 KEzb6 HEzb7 BEzb8 NYENzb9 PAy100 Ezb1 FANzb2 POOzb3 BOOzb4 TOO",
  "MENDE KIKAKUI SYLLABLE M105 LONG MBOOzb6 LONG NGGOOzb7 GBEzb8 KPEzb9 YEEz10 LONG LEzb1 GA",
  "MENDE KIKAKUI SYLLABLE M112 KPOOzb3 JEzb4 WOOzb5 NGGEEzb6 SEzb7 NENzb8 WEzb9 NDEz20 NGGOzb1 YO",
  "MENDE KIKAKUI SYLLABLE M122 MBUzb3 NDIzb4 GBIzb5 NDUzb6 WEEzb7 NGGUAzb8 HOOUzb9 NDAz30 HAN",
  "MENDE KIKAKUI SYLLABLE M131 INzb2 KPIzb3 FOOzb4 NJOOzb5 INzb6 SOOzb7 EIzb8 BOzb9 WVEz40 HO",
  "MENDE KIKAKUI SYLLABLE M141 YOOzb2 LONG MBOzb3 WEIzb4 VOOzb5 MBIzb6 NGGEzb7 Ozb8 GBUzb9 NJEE",
  "MENDE KIKAKUI SYLLABLE M150 BEEzb1 VUzb2 NJAzb3 LOzb4 MUANzb5 GIzb6 NGGOOzb7 JEEzb8 KPO",
  "MENDE KIKAKUI SYLLABLE M159 NGGAAz60 JOOzb1 LONG MBEzb2 SEEzb3 EEzb4 NYINzb5 OOzb6 GUEIzb7 GUAN",
  "MENDE KIKAKUI SYLLABLE M168 GUzb9 NONz70 NYUNzb1 RAzb2 MBOOzb3 VEEzb4 MBOzb5 LONG JOzb6 HI",
  "MENDE KIKAKUI SYLLABLE M177 NGUANzb8 ENzb9 KUAz80 DOOzb1 DOzb2 VIzb3 LONG NGGOzb4 NGENzb5 VA",
  "MENDE KIKAKUI SYLLABLE M186 HUzb7 MBUUzb8 MBEEzb9 MUENz90 GEEzb1 NDEEzb2 NJUzb3 HONzb4 WUI",
  "MENDE KIKAKUI SYLLABLE M195 ANzb6 SIAzb7 FUAdORAH WITH NINE BRANCHESdS SYMBOLcRCURY",
  "MEROITIC CURSIVE FRACTION EIGHT TWELFTHSzcLEVEN TWELFTHSzbFIVE TWELFTHSzcOUR TWELFTHS",
  "MEROITIC CURSIVE FRACTION NINE TWELFTHSzbONE HALFzfTWELFTHzbSEVEN TWELFTHSzcIX TWELFTHS",
  "MEROITIC CURSIVE FRACTION TEN TWELFTHSzcHREE TWELFTHSzcWO TWELFTHSrLETTER AzRCHAIC SAyBAyDAyE",
  "MEROITIC CURSIVE LETTER HHAyIyKAzHAyLAyMAyNAzEyOyPAyQAyRAySAzEyTAzEzOyWAyYAsOGOGRAM IMNzbRMT",
  "MEROITIC CURSIVE NUMBER EIGHTze HUNDREDzm THOUSANDzfTHOUSANDzeY THOUSANDyFIFTYze THOUSANDzbVE",
  "MEROITIC CURSIVE NUMBER FIVE HUNDREDzl THOUSANDzeTHOUSANDzORTYze THOUSANDzbURzd HUNDRED",
  "MEROITIC CURSIVE NUMBER FOUR HUNDRED THOUSANDzeTHOUSANDyNINEzd HUNDREDzl THOUSANDzeTHOUSAND",
  "MEROITIC CURSIVE NUMBER NINETY THOUSANDyONEzc HUNDREDzk THOUSANDzdTHOUSANDySEVENze HUNDRED",
  "MEROITIC CURSIVE NUMBER SEVEN HUNDRED THOUSANDzfTHOUSANDzeTYzg THOUSANDzIXzc HUNDREDzk THOUSAND",
  "MEROITIC CURSIVE NUMBER SIX THOUSANDzcTYze THOUSANDyTENzc THOUSANDzHIRTYzf THOUSANDzbREE",
  "MEROITIC CURSIVE NUMBER THREE HUNDREDzm THOUSANDzfTHOUSANDzWENTYzf THOUSANDzbOzc HUNDRED",
  "MEROITIC CURSIVE NUMBER TWO HUNDRED THOUSANDzdTHOUSANDjHIEROGLYPHIC LETTER AzeBAzg-2zeDAzeE",
  "MEROITIC HIEROGLYPHIC LETTER HHAzeIzeKAzfHAzeLAzeMAzeNAzg-2zfEzg-2zeOzePAzeQAzeRAzg-2zeSAzg-2",
  "MEROITIC HIEROGLYPHIC LETTER SEzeTAzg-2zfEzg-2zfOzeWAzeYAwSYMBOL VIDJzi-2dPERSONcSSAGE WAITING",
  "METRICAL BREVEjLONG OVER SHORTtTWO SHORTSjPENTASEMEjSHORT OVER LONGjTETRASEMEkRISEME",
  "METRICAL TWO SHORTS JOINEDuOVER LONGeObIAO LETTER AHnRCHAIC MAuNAvGAuZZAmBAnRImDAnDAnLHApYAnZA",
  "MIAO LETTER DZHAoYIoZAmFAmGAnHAoHAmHAnHAmKAmLAnHAoYAnYAmMAnHAmNAoSALIZATIONnGAoHAnHAnNAoHAnYA",
  "MIAO LETTER NYHAmPAnLAmQAnGAmREFORMED TONE-1zb2zb4zb5zb6zb8wSHAnTEmSAnHAnSAnYImTAnEnLHApYA",
  "MIAO LETTER TONE-2r3r4r5r6r7r8nSAoEoHAoSAnTAmVAnFAmWAmXAmYI DZHApKApNNApPApTAqSArHAqTAmZAnHAnSA",
  "MIAO LETTER ZSHAnZAoSApYAoYAfSIGN ASPIRATIONkCONSONANT MODIFIER BARkREFORMED ASPIRATIONtVOICING",
  "MIAO TONE ABOVEkBELOWkRIGHTkTOP RIGHTfVOWEL SIGN ArArEsErHHrIrNsGrUqErArIrNsGrRsRqIrAsNtGrErGrI",
  "MIAO VOWEL SIGN INGrOsNGrUqNrGqOrERsYrGrOrUqROUNDED ERzbRqUrAsNtGrEIrIrNGrOGrUqVWqWrOqYrIrUI",
  "MICR DASH SYMBOLfON US SYMBOLeO SIGNfBEfPHONEfSCOPEcDDLE DOThTHIRD WHITE RIGHT POINTING INDEX",
  "MIDLINE HORIZONTAL ELLIPSIScLITARY HELMETjMEDALdKY WAYdL SIGNcNIBUSeDISCeMIZEdUS SIGN",
  "MINUS SIGN IN TRIANGLElWITH COMMA ABOVEqDOT BELOWqFALLING DOTSqRISING DOTSgTILDEf-OR-PLUS SIGN",
  "MINYcRRORg BALLbMSPbOBILE PHONEm OFFnWITH RIGHTWARDS ARROW AT LEFTcDELSeRN PENTATHLON",
  "MODI ABBREVIATION SIGNfDANDAgIGIT EIGHTlFIVEmOURlNINElONElSEVENmIXlTHREEmWOlZEROgOUBLE DANDA",
  "MODI LETTER AnAnInUmBAnHAmCAnHAmDAnDAoHAnHAmEmGAnHAmHAmInImJAnHAmKAnHAmLAnLAmMAmNAnGAnNAnYAmO",
  "MODI LETTER PAnHAmRAmSAnHAnSAmTAnHAnTAoHAmUnUmVAnOCALIC LvLuRvRmYAfSIGN ANUSVARAlRDHACANDRA",
  "MODI SIGN HUVAkVIRAMAmSARGAfVOWEL SIGN AArIrUqEqIrIqOqUrUqVOCALIC LzLyRzR",
  "MODIFIER BREVE WITH INVERTED BREVEjLETTER ACUTE ACCENTrLVEOLAR CLICKrPOSTROPHEqBEGIN HIGH TONE",
  "MODIFIER LETTER BEGIN LOW TONErILABIAL CLICKqCAPITAL AzEyBzARRED ByCyDyEyFyGyHz WITH STROKEyIyJ",
  "MODIFIER LETTER CAPITAL KyLyMyNyOzUyPyQyRzEVERSED EziNyTyUyVyWrENTRED LEFT HALF RING",
  "MODIFIER LETTER CENTRED RIGHT HALF RINGrHINESE TONE YANG PINGzjQUzjRUzjSHANGzfIN PINGziQUziRU",
  "MODIFIER LETTER CHINESE TONE YIN SHANGrIRCUMFLEX ACCENTrOLONrROSS ACCENTrYRILLIC ENzHARD SIGN",
  "MODIFIER LETTER CYRILLIC SOFT SIGNqDENTAL CLICKrOT HORIZONTAL BARuSLASHuVERTICAL BAR",
  "MODIFIER LETTER DOUBLE APOSTROPHExPRIMEsWN ARROWHEADvTACKqEND HIGH TONEuLOW TONE",
  "MODIFIER LETTER EXTRA-HIGH DOTTED LEFT-STEM TONE BARzjTONE BARzcLEFT-STEM TONE BARzcTONE BAR",
  "MODIFIER LETTER EXTRA-LOW DOTTED LEFT-STEM TONE BARziTONE BARzbLEFT-STEM TONE BARzbTONE BAR",
  "MODIFIER LETTER GEORGIAN NARrLOTTAL STOPzd WITH STROKErRAVE ACCENTqHALF TRIANGULAR COLON",
  "MODIFIER LETTER HIGH DOTTED LEFT-STEM TONE BARzdTONE BARvLEFT-STEM TONE BARvTONE BAR",
  "MODIFIER LETTER LATERAL CLICKrEFT ARROWHEADvHALF RINGvTACKrOW ACUTE ACCENTuCIRCUMFLEX ACCENT",
  "MODIFIER LETTER LOW DOTTED LEFT-STEM TONE BARzcTONE BARwWN ARROWHEADuGRAVE ACCENT",
  "MODIFIER LETTER LOW INVERTED EXCLAMATION MARKuLEFT ARROWzfHEADy-STEM TONE BARuMACRON",
  "MODIFIER LETTER LOW RIGHT ARROWHEADwNGuTILDEvONE BARuUP ARROWHEADuVERTICAL LINE",
  "MODIFIER LETTER LOWER RIGHT CORNER ANGLEqMACRONrID DOTTED LEFT-STEM TONE BARzcTONE BAR",
  "MODIFIER LETTER MID LEFT-STEM TONE BARuTONE BARtDLE DOUBLE ACUTE ACCENTzfGRAVE ACCENT",
  "MODIFIER LETTER MIDDLE GRAVE ACCENTsNUS SIGNqOPEN SHELFqPLUS SIGNrRIMEqRAISED COLONxDOWN ARROW",
  "MODIFIER LETTER RAISED EXCLAMATION MARKxINVERTED EXCLAMATION MARKxUP ARROW",
  "MODIFIER LETTER RETROFLEX CLICK WITH RETROFLEX HOOKsVERSED COMMAzGLOTTAL STOPzm WITH STROKE",
  "MODIFIER LETTER RHOTIC HOOKrIGHT ARROWHEADwHALF RINGwTACKqSHELFsORT EQUALS SIGNrMALL AxExIN",
  "MODIFIER LETTER SMALL ALPHAwBx WITH HOOKxARRED OxETAxOTTOM HALF OwCx WITH CURLxAPITAL AAzfBzfG",
  "MODIFIER LETTER SMALL CAPITAL G WITH HOOKzfHzfIzg WITH STROKEzgNVERTED RzfLzg WITH BELTzfNzfOE",
  "MODIFIER LETTER SMALL CAPITAL RzfUzfYxHIxLOSED OMEGAzeREVERSED OPEN EwDx WITH HOOKzi AND TAIL",
  "MODIFIER LETTER SMALL D WITH TAILxELTAyZH DIGRAPHxOTLESS J WITH STROKEzs AND HOOKxZ DIGRAPH",
  "MODIFIER LETTER SMALL DZ DIGRAPH WITH CURLznRETROFLEX HOOKwExNGxSHxTHxZHwFxENG DIGRAPHwG",
  "MODIFIER LETTER SMALL G WITH HOOKxAMMAxREEK GAMMAzdPHIwHx WITH HOOKzeSTROKExENGzb WITH HOOK",
  "MODIFIER LETTER SMALL I WITH STROKExOTAwJx WITH CROSSED-TAILwKwLx WITH BELTzeINVERTED LAZY S",
  "MODIFIER LETTER SMALL L WITH MIDDLE TILDEzePALATAL HOOKzeRETROFLEX HOOKzs AND BELTxEZH",
  "MODIFIER LETTER SMALL LEZH WITH RETROFLEX HOOKxIGATURE OExS DIGRAPHxZ DIGRAPHwMx WITH HOOK",
  "MODIFIER LETTER SMALL N WITH LEFT HOOKzeRETROFLEX HOOKwOx WITH STROKExPEN EzcOwPxHIwQwR",
  "MODIFIER LETTER SMALL R WITH FISHHOOKzeTAILxAMS HORNxEVERSED EzgGLOTTAL STOPzgOPEN EwS",
  "MODIFIER LETTER SMALL S WITH CURLzeHOOKxCHWAyRIPT GxIDEWAYS UwTx WITH PALATAL HOOK",
  "MODIFIER LETTER SMALL T WITH RETROFLEX HOOKxC DIGRAPH WITH CURLxESH DIGRAPHxHETAxOP HALF O",
  "MODIFIER LETTER SMALL TS DIGRAPHzh WITH RETROFLEX HOOKxURNED AzfEzfLPHAzeHzeIzeM",
  "MODIFIER LETTER SMALL TURNED M WITH LONG LEGzeOPEN EzeRzf WITH HOOKzlLONG LEG",
  "MODIFIER LETTER SMALL TURNED R WITH LONG LEG AND RETROFLEX HOOKzeVzeWzeYzf WITH BELTwUx BAR",
  "MODIFIER LETTER SMALL U WITH LEFT HOOKxPSILONwVx WITH HOOKzeRIGHT HOOKwWwXwYwZx WITH CURL",
  "MODIFIER LETTER SMALL Z WITH RETROFLEX HOOKrTRESS AND HIGH TONEzcLOW TONE",
  "MODIFIER LETTER SUPERSCRIPT HALF TRIANGULAR COLONzdTRIANGULAR COLONqTRIANGULAR COLON",
  "MODIFIER LETTER TURNED COMMAqUNASPIRATEDrP ARROWHEADtTACKrSqVERTICAL LINErOICING",
  "MODIFIER LETTER YANG DEPARTING TONE MARKrIN DEPARTING TONE MARKdULO TWO SUMcNEY BAGgWITH WINGS",
  "MONEY-MOUTH FACEdGOLIAN BIRGAp WITH DOUBLE ORNAMENTvORNAMENTkCOLONmMMAkDIGIT EIGHTqFIVErOUR",
  "MONGOLIAN DIGIT NINEqONEqSEVENrIXqTHREErWOqZEROlOUBLE BIRGA WITH ORNAMENTkELLIPSISkFOUR DOTS",
  "MONGOLIAN FREE VARIATION SELECTOR FOURzjONEzjTHREEzkWOlULL STOPkINVERTED BIRGA",
  "MONGOLIAN INVERTED BIRGA WITH DOUBLE ORNAMENTkLETTER AsLI GALI AzcHzcNUSVARA ONEzbBALUDAzbCA",
  "MONGOLIAN LETTER ALI GALI DAzdGALGAzdMARUzcDAzbHALF UzgYAzbIzcNVERTED UBADAMAzbKAzbNGAzcNAzbPA",
  "MONGOLIAN LETTER ALI GALI PHAzbSSAzbTAzcHREE BALUDAzcTAzdHAzbUBADAMAzbVISARGA ONEzbZAzcHAsNGrBA",
  "MONGOLIAN LETTER CHAu WITH TWO DOTStIrDArEsErFArGArHAArIrJArKAsHArLAsHArMAtNCHU ALI GALI BHA",
  "MONGOLIAN LETTER MANCHU ALI GALI CAzjYAziDDHAzjHAziGHAziJHAziLHAziNGAziSSAziTAzjTAziZAzjHAyFAyI",
  "MONGOLIAN LETTER MANCHU KAyRAyZHArNArOsErPArQArRArSAsHAsIBE ANGwCHAwDAwEwFAwGAyAwHAyAwIxYwJAwKA",
  "MONGOLIAN LETTER SIBE PAwRAAwSHAwTAxSAwUxEwZAxHArTAsODO ALI GALI TAzgZHAxNGwBAwCHAwDAxZAwEwGAyA",
  "MONGOLIAN LETTER TODO HAAwIwJAxIAwKAwLONG VOWEL SIGNwMAwNIAwOxEwPAwQAwTAxSAwUxEwWAwYAsSArUsErWA",
  "MONGOLIAN LETTER YArZAsHIsRAkMANCHU COMMArFULL STOPkNIRUGUkROTATED BIRGAx WITH DOUBLE ORNAMENT",
  "MONGOLIAN ROTATED BIRGA WITH ORNAMENTkSIBE SYLLABLE BOUNDARY MARKERlWIRL BIRGA",
  "MONGOLIAN SWIRL BIRGA WITH DOUBLE ORNAMENTzcORNAMENTkTODO SOFT HYPHENlRIPLE BIRGA WITH ORNAMENT",
  "MONGOLIAN TURNED SWIRL BIRGA WITH DOUBLE ORNAMENTkVOWEL SEPARATORdKEYg FACEdOGRAM FOR EARTH",
  "MONOGRAM FOR YANGoINeRAILeSTABLE SYMBOLcOD BUBBLEdN CAKEfVIEWING CEREMONYcSQUEfITO",
  "MOTHER CHRISTMASdOR BOATgSCOOTERfIZED WHEELCHAIRfWAYcUNT FUJIfAINi BICYCLISTjCABLEWAYjRAILWAY",
  "MOUSEf FACEgTRAPdTHcVIE CAMERAcYAIbRO DANDAfIGIT EIGHTkFIVElOURkNINEkONEkSEVENlIXkTHREElWOkZERO",
  "MRO DOUBLE DANDAeLETTER AlBAlCHUlDAnIlEmAlHAInOlKEAAEmHAImOlLAnNlMAEMmIMlNGImINlOmLmOlPAmHIlRI",
  "MRO LETTER ROlSHIlTAmEKmHEAlWAlYObUCH GREATER-THANfLESS-THANcLTANI LETTER ApBAqHApCAqHApDAqDA",
  "MULTANI LETTER DDDArHAqHApEpGAqHApHApIpJAqJApKAqHApLApMApNAqNAqYApPAqHApRAqHAqRApSApTAqHAqTArHA",
  "MULTANI LETTER UpVApYAiSECTION MARKeIMAPfPLE MUSICAL NOTEShICATION SIGNt IN DOUBLE CIRCLE",
  "MULTIPLICATION SIGN IN LEFT HALF CIRCLExRIGHT HALF CIRCLExTRIANGLEuWITH DOT ABOVEzUNDERBARpX",
  "MULTISETi MULTIPLICATIONjUNIONcSHROOMdIC FLAT SIGNgNATURAL SIGNgSHARP SIGNfAL KEYBOARD",
  "MUSICAL KEYBOARD WITH JACKSiNOTEiSCOREjYMBOL ARPEGGIATO DOWNzbUPpBEGIN BEAMvPHRASEvSLURvTIE",
  "MUSICAL SYMBOL BRACEtKETrEATH MARKsVEtISv RESTpC CLEFqAESURAqIRCLE X NOTEHEADqLIMACUSsVIS",
  "MUSICAL SYMBOL CLUSTER NOTEHEAD BLACKzhWHITEqODArMBINING ACCENTzg-STACCATOzbUGMENTATION DOT",
  "MUSICAL SYMBOL COMBINING BENDzDOITzcUBLE TONGUEzcWN BOWzFLAG-1zf2zf3zf4zf5zcIPzHARMONICzLOURE",
  "MUSICAL SYMBOL COMBINING MARCATOzh-STACCATOzRIPzSMEARzbNAP PIZZICATOzbPRECHGESANG STEM",
  "MUSICAL SYMBOL COMBINING STACCATISSIMOzhOzcEMzTENUTOzbREMOLO-1zi2zi3zcIPLE TONGUEzUP BOW",
  "MUSICAL SYMBOL COMMON TIMEqRESCENDOrOIXqUT TIMEpDA CAPOrL SEGNOrMPt ALLrSHED BARLINEqECRESCENDO",
  "MUSICAL SYMBOL DEGREE SLASHqOUBLE BARLINEwFLATwSHARPqRUM CLEF-1z2pEIGHTH NOTEwRESTqND BEAM",
  "MUSICAL SYMBOL END OF STIMMEtPHRASEtSLURtTIEpF CLEFv OTTAVA ALTAzeBASSAqERMATAw BELOW",
  "MUSICAL SYMBOL FINAL BARLINEsGERED TREMOLO-1zh2zh3rVE-LINE STAFFqLAT DOWNuUPqORTErUR-LINE STAFF",
  "MUSICAL SYMBOL FOUR-STRING FRETBOARDqUSA BLACKuWHITEpG CLEFv OTTAVA ALTAzeBASSAqLISSANDO DOWN",
  "MUSICAL SYMBOL GLISSANDO UPqRACE NOTE NO SLASHzbSLASHrEGORIAN C CLEFzF CLEFpHALF NOTE",
  "MUSICAL SYMBOL HALF PEDAL MARKuRESTrUPTSTIMMEpINVERTED TURNpKIEVAN C CLEFwEIGHTH NOTE STEM DOWN",
  "MUSICAL SYMBOL KIEVAN EIGHTH NOTE STEM UPxND OF PIECEwFINAL NOTExLAT SIGNwHALF NOTE",
  "MUSICAL SYMBOL KIEVAN QUARTER NOTE STEM DOWNzpUPwRECITATIVE MARKwWHOLE NOTEqORON",
  "MUSICAL SYMBOL LEFT REPEAT SIGNqONGAu IMPERFECTA RESTvPERFECTA RESTpMAXIMAqEZZOqINIMAv BLACK",
  "MUSICAL SYMBOL MINIMA RESTqOON NOTEHEAD BLACKzeWHITEqULTI RESTuPLE MEASURE RESTpNATURAL DOWNxUP",
  "MUSICAL SYMBOL NEBENSTIMMEqOTEHEAD BLACKqULL NOTEHEADpONE HUNDRED TWENTY-EIGHTH NOTEzqREST",
  "MUSICAL SYMBOL ONE-LINE STAFFqRNAMENT STROKE-1zh0zh1zg2zg3zg4zg5zg6zg7zg8zg9qTTAVA ALTAwBASSA",
  "MUSICAL SYMBOL PARENTHESIS NOTEHEADqEDAL MARKvUP MARKrS SUBPUNCTISqIANOqLUS NOTEHEADqODATUS",
  "MUSICAL SYMBOL PORRECTUSy FLEXUSpQUARTER NOTExRESTxTONE FLATzdSHARPrINDICESIMA ALTAzdBASSA",
  "MUSICAL SYMBOL REPEAT DOTSvED FIGURE-1zg2zg3rVERSE FINAL BARLINEqIGHT REPEAT SIGNrNFORZANDO",
  "MUSICAL SYMBOL SCANDICUSy FLEXUSqEGNOrMIBREVIS BLACKzbRESTzbWHITEtMINIMA BLACKzbRESTzbWHITE",
  "MUSICAL SYMBOL SHARP DOWNvUPrORT BARLINEqINGLE BARLINErX-LINE STAFFtSTRING FRETBOARD",
  "MUSICAL SYMBOL SIXTEENTH NOTEzRESTtY-FOURTH NOTEzdRESTqORIqQUARE BwNOTEHEAD BLACKzgWHITEqUBITO",
  "MUSICAL SYMBOL TEMPUS IMPERFECTUM CUM PROLATIONE IMPERFECTAzzj DIMINUTION-1zzv2zzv3zyPERFECTA",
  "MUSICAL SYMBOL TEMPUS PERFECTUM CUM PROLATIONE IMPERFECTAzwPERFECTAzzf DIMINUTION-1",
  "MUSICAL SYMBOL THIRTY-SECOND NOTEzeRESTrREE-LINE STAFFqORCULUSx RESUPINUSqR",
  "MUSICAL SYMBOL TRIANGLE NOTEHEAD DOWN BLACKznWHITEziLEFT BLACKznWHITEziRIGHT BLACKzoWHITE",
  "MUSICAL SYMBOL TRIANGLE NOTEHEAD UP BLACKzlRIGHT BLACKzrWHITEzlWHITEx-ROUND NOTEHEAD DOWN BLACK",
  "MUSICAL SYMBOL TRIANGLE-ROUND NOTEHEAD DOWN WHITEqURNt SLASHuUPqWO-LINE STAFFpVIRGA",
  "MUSICAL SYMBOL VOID NOTEHEADpWHOLE NOTEvRESTqITH FINGERNAILSpX NOTEHEADpZbVSbW",
  "MYANMAR CONSONANT SIGN MEDIAL HAzfRAzfWAzfYAyON MEDIAL LAzjMAzjNAxSHAN MEDIAL WAiDIGIT EIGHT",
  "MYANMAR DIGIT FIVEpOURoNINEoONEoSEVENpIXoTHREEpWOoZEROiLETTER AqITON RAqUpBAqHApCAqHApDAqDArHA",
  "MYANMAR LETTER DHApEqASTERN PWO KAREN GHWAziNNAziYWApGAqHAqREAT SApHApIqIpJAqHApKAqHAsMTI CAxHA",
  "MYANMAR LETTER KHAMTI DDAyHAxHAwFAwGAwHAxHAwJAxHAwLLAwNAxYAwRAwSAwTTAyHAwXAwZApLAqLApMAqON BBA",
  "MYANMAR LETTER MON BBEtEtJHAtNGApNAqGAqNArYAqYApOpPAqHApRAqUMAI PALAUNG FApSAqGAW KAREN SHAqHA",
  "MYANMAR LETTER SHAN AuBAvHAuCAvHAuDAuFAuGAvHAuHAuJHAuKAvHAuNAvNAvYAuPHAuTHAuZArWE PALAUNG CHA",
  "MYANMAR LETTER SHWE PALAUNG SHAqSApTArI LAING BAzbHAzDAzbDAzcHAzbHAzFAzGAzbHAzJAzbHAzLLAzNNA",
  "MYANMAR LETTER TAI LAING NYAqHAqTArHApUqUpVOCALIC LyLxRyRpWAqESTERN PWO KAREN PWAziTHApYA",
  "MYANMAR LOGOGRAM KHAMTI HMyOAYyQNiMODIFIER LETTER KHAMTI REDUPLICATIONySHAN REDUPLICATION",
  "MYANMAR SHAN DIGIT EIGHTtFIVEuOURtNINEtONEtSEVENuIXtTHREEuWOtZEROjIGN ANUSVARAoSATnDOT BELOW",
  "MYANMAR SIGN KHAMTI TONE-1z3nLITTLE SECTIONnPAO KAREN TONEnRUMAI PALAUNG TONE-5nSECTION",
  "MYANMAR SIGN SHAN COUNCIL EMPHATIC TONEzbTONE-2zg3sSAWsTONE-2x3x5x6nTAI LAING TONE-2zd5nVIRAMA",
  "MYANMAR SIGN VISARGAnWESTERN PWO KAREN TONE-1zl2zl3zl4zl5jYMBOL AFOREMENTIONEDqITON EXCLAMATION",
  "MYANMAR SYMBOL AITON ONEvTWOpCOMPLETEDpGENITIVEpLOCATIVEpSHAN EXCLAMATIONuONE",
  "MYANMAR TAI LAING DIGIT EIGHTyFIVEzOURyNINEyONEySEVENzIXyTHREEzWOyZERO",
  "MYANMAR TONE MARK SGAW KAREN HATHIzeKE PHOiVOWEL SIGN AAuIvTON AzbItEu ABOVEtGEBA KAREN ItIuI",
  "MYANMAR VOWEL SIGN KAYAH EEzOEzUtMON IIxOtSGAW KAREN EUuHAN AAyEz ABOVEyFINAL YtTALL AAtUuU",
  "MYANMAR VOWEL SIGN VOCALIC LzdLzcRzdRtWESTERN PWO KAREN EUzmUEaN-ARY CIRCLED DOT OPERATOR",
  "N-ARY CIRCLED PLUS OPERATORoTIMES OPERATORhOPRODUCTgINTERSECTIONgLOGICAL ANDoORgPRODUCT",
  "N-ARY SQUARE INTERSECTION OPERATORnUNION OPERATORhUMMATIONgTIMES OPERATORgUNION",
  "N-ARY UNION OPERATOR WITH DOTzbPLUSgWHITE VERTICAL BARbABATAEAN CRUCIFORM NUMBER FOUR",
  "NABATAEAN LETTER ALEPHsYINrBETHrDALETHrFINAL ALEPHxBETHxHExKAPHxLAMEDHxMEMxNUNxSHINxYODHrGIMEL",
  "NABATAEAN LETTER HEtTHrKAPHrLAMEDHrMEMrNUNrPErQOPHrRESHrSADHEtMEKHsHINrTAWsETHrWAWrYODHrZAYIN",
  "NABATAEAN NUMBER FIVEsOURrONEu HUNDREDrTENsHREEsWENTYtOdLAcIL POLISHdRA SIGNcKcME BADGEcND",
  "NANDINAGARI HEADSTROKEmLETTER AuAuIuUtBAuHAtCAuHAtDAuDAvHAuHAtEtGAuHAtHAtIuItJAuHAtKAuHAtLAuLA",
  "NANDINAGARI LETTER MAtNAuGAuNAuYAtOtPAuHAtRAuRAtSAuHAuSAtTAuHAuTAvHAtUuUtVAuOCALIC RzdRtYA",
  "NANDINAGARI SIGN ANUSVARAsVAGRAHArSIDDHAMrVIRAMAtSARGAmVOWEL SIGN AAyIyUxExIyIxO",
  "NANDINAGARI VOWEL SIGN PRISHTHAMATRA ExUyUxVOCALIC RzhRcRROW NO-BREAK SPACEcTIONAL DIGIT SHAPES",
  "NATIONAL PARKcUSEATED FACEcZAR AMULETbBHcSPbECKTIE",
  "NEGATED DOUBLE VERTICAL BAR DOUBLE RIGHT TURNSTILEfIVE ACKNOWLEDGEjCIRCLED DIGIT ZERO",
  "NEGATIVE CIRCLED LATIN CAPITAL LETTER AznBznCznDznEznFznGznHznIznJznKznLznMznNznOznPznQznRznS",
  "NEGATIVE CIRCLED LATIN CAPITAL LETTER TznUznVznWznXznYznZrNUMBER EIGHTEENzLEVENyFIFTEENzOURTEEN",
  "NEGATIVE CIRCLED NUMBER NINETEENySEVENTEENzIXTEENyTHIRTEENzWELVEzcNTYrSQUARErTRIANGLE",
  "NEGATIVE DIAGONAL CROSSsDIAMONDsMIDDLE RIGHT TO LOWER CENTREjSQUARED ABrCROSS MARKrIC",
  "NEGATIVE SQUARED LATIN CAPITAL LETTER AznBznCznDznEznFznGznHznIznJznKznLznMznNznOznPznQznRznS",
  "NEGATIVE SQUARED LATIN CAPITAL LETTER TznUznVznWznXznYznZrPArQUESTION MARKrSArWC",
  "NEITHER A SUBSET OF NOR EQUAL TOmPERSET OF NOR EQUAL TOjPPROXIMATELY NOR ACTUALLY EQUAL TO",
  "NEITHER GREATER-THAN NOR EQUAL TOzdIVALENT TOzLESS-THANiLESS-THAN NOR EQUAL TOzIVALENT TO",
  "NEITHER LESS-THAN NOR GREATER-THANcLcPTUNEh FORM TWOcRD FACEcSSUSdT WITH EGGSeING DOLLScUTER",
  "NEUTRAL CHESS BISHOPu ROTATED NINETY DEGREESzeTWO HUNDRED SEVENTY DEGREESoEQUIHOPPER",
  "NEUTRAL CHESS EQUIHOPPER ROTATED NINETY DEGREESoKINGs ROTATED NINETY DEGREES",
  "NEUTRAL CHESS KING ROTATED TWO HUNDRED SEVENTY DEGREESpNIGHTu ROTATED FORTY-FIVE DEGREES",
  "NEUTRAL CHESS KNIGHT ROTATED NINETY DEGREESzeONE HUNDRED THIRTY-FIVE DEGREES",
  "NEUTRAL CHESS KNIGHT ROTATED THREE HUNDRED FIFTEEN DEGREESzfWO HUNDRED SEVENTY DEGREES",
  "NEUTRAL CHESS KNIGHT ROTATED TWO HUNDRED TWENTY-FIVE DEGREESoPAWNs ROTATED NINETY DEGREES",
  "NEUTRAL CHESS PAWN ROTATED TWO HUNDRED SEVENTY DEGREESoQUEENt ROTATED NINETY DEGREES",
  "NEUTRAL CHESS QUEEN ROTATED TWO HUNDRED SEVENTY DEGREESoROOKs ROTATED NINETY DEGREES",
  "NEUTRAL CHESS ROOK ROTATED TWO HUNDRED SEVENTY DEGREESoTURNED BISHOPvKINGwNIGHTvPAWNvQUEENvROOK",
  "NEUTRAL FACEcW LINEeMOON SYMBOLjWITH FACEeSHEQEL SIGNeTAI LUE DIGIT EIGHTsFIVEtOURsNINEsONE",
  "NEW TAI LUE DIGIT SEVENtIXsTHREEtWOsZEROmLETTER FINAL BzDzKzMzNzbGzVtHIGH BAyDAyFAyHAyKAzVAyLA",
  "NEW TAI LUE LETTER HIGH MAyNAzGAyPAzHAyQAySAzUAyTAzHAzSAyVAyXAzVAyYAtLOW BAxDAxFAxHAxKAyVAxLA",
  "NEW TAI LUE LETTER LOW MAxNAyGAxPAyHAxQAxSAyUAxTAyHAySAxVAxXAyVAxYAmSIGN LAEuVmTHAM DIGIT ONE",
  "NEW TAI LUE TONE MARK-1w2mVOWEL SIGN AAzYyEyYxExIIyYxOyAzYyYxUyEzYyUyYxVOWEL SHORTENER",
  "NEWA ABBREVIATION SIGNfCOMMAfDANDAgIGIT EIGHTlFIVEmOURlNINElONElSEVENmIXlTHREEmWOlZERO",
  "NEWA DOUBLE COMMAmDANDAfGAP FILLERfINSERTION SIGNfLETTER AnAnInUmBAnHAmCAnHAmDAnDAoHAnHAmEmGA",
  "NEWA LETTER GHAmHAmInImJAnHAmKAnHAmLAnHAmMAnHAmNAnGAoHAnHAnNAnYAoHAmOmPAnHAmRAnHAmSAnHAnSAmTA",
  "NEWA LETTER THAnTAoHAmUnUmVEDIC ANUSVARAnOCALIC LvLuRvRmWAmYAfOMfPLACEHOLDER MARKfSANDHI MARK",
  "NEWA SIDDHIhGN ANUSVARAlVAGRAHAkCANDRABINDUkFINAL ANUSVARAkJIHVAMULIYAkNUKTAkUPADHMANIYAkVIRAMA",
  "NEWA SIGN VISARGAfVOWEL SIGN AArIrUqEqIrIqOqUrUqVOCALIC LzLyRzRdLINE LEFTiRIGHTdSPAPERcXT LINE",
  "NEXT PAGEbIGHT WITH STARScNJAbKO COMBINING DOUBLE DOT ABOVEoLONG DESCENDING TONEtHIGH TONE",
  "NKO COMBINING LONG LOW TONEtRISING TONEoNASALIZATION MARKoSHORT HIGH TONEuLOW TONEuRISING TONE",
  "NKO COMMAeDANTAYALANfIGIT EIGHTkFIVElOURkNINEkONEkSEVENlIXkTHREElWOkZEROfOROME SIGN",
  "NKO EXCLAMATION MARKeHIGH TONE APOSTROPHEeLAJANYALANfETTER AlBAlCHAlDAnGBASINNAlEmElFAlGBAlHAlI",
  "NKO LETTER JAmONA CHAqJAqRAlKAlLAlMAlNmAn WOLOSOmYAo WOLOSOlOmOlPAlRAmRAlSAlTAlUlWAlYA",
  "NKO LOW TONE APOSTROPHEeSYMBOL GBAKURUNENlOO DENNENeTAMAN SIGNbLbNBSPbO BICYCLESeREAK HERE",
  "NO ENTRYi SIGNdMOBILE PHONESdONE UNDER EIGHTEEN SYMBOLdPEDESTRIANSeIRACYdSMOKING SYMBOL",
  "NO-BREAK SPACEcMINAL DIGIT SHAPESeSMA SIGNcN-BREAKING HYPHENePOTABLE WATER SYMBOLdFORKINGcR",
  "NORDIC MARK SIGNdMAL SUBGROUP OFs OR EQUAL TOdTH EAST AND SOUTH WEST ARROWmRROW",
  "NORTH EAST ARROW AND SOUTH EAST ARROWrCROSSING NORTH WEST ARROWzbSOUTH EAST ARROWrWITH HOOK",
  "NORTH EAST BLACK ARROWlDOUBLE ARROWlPOINTING BUDuLEAFuVINE LEAFlSANS-SERIF ARROW",
  "NORTH EAST TRIANGLE-HEADED ARROWzh TO BARlWHITE ARROWgINDIC FRACTION ONE EIGHTHzHALFzQUARTER",
  "NORTH INDIC FRACTION ONE SIXTEENTHvTHREE QUARTERSzcSIXTEENTHSmPLACEHOLDER MARKmQUANTITY MARK",
  "NORTH INDIC QUARTER MARKmRUPEE MARKgWEST AND SOUTH EAST ARROWmRROWq AND NORTH EAST ARROW",
  "NORTH WEST ARROW CROSSING NORTH EAST ARROWrTO CORNERuLONG BARrWITH HOOKlBLACK ARROW",
  "NORTH WEST DOUBLE ARROWlPOINTING BUDuLEAFuVINE LEAFlSANS-SERIF ARROWlTRIANGLE-HEADED ARROW",
  "NORTH WEST TRIANGLE-HEADED ARROW TO BARlWHITE ARROWfEAST-POINTING AIRPLANEcSEcT A SUBSET OF",
  "NOT A SUPERSET OFfLMOST EQUAL TOfN ELEMENT OFfSYMPTOTICALLY EQUAL TOeCHECK MARKeEQUAL TO",
  "NOT EQUIVALENT TOeGREATER-THANeIDENTICAL TOeLESS-THANeNORMAL SUBGROUP OFw OR EQUAL TO",
  "NOT PARALLEL TOeSIGNfQUARE IMAGE OF OR EQUAL TOlORIGINAL OF OR EQUAL TOeTILDEfRUE",
  "NOTCHED LEFT SEMICIRCLE WITH THREE DOTSjOWER RIGHT-SHADOWED WHITE RIGHTWARDS ARROW",
  "NOTCHED RIGHT SEMICIRCLE WITH THREE DOTSiUPPER RIGHT-SHADOWED WHITE RIGHTWARDS ARROWdEe PADhGE",
  "NOTEBOOKi WITH DECORATIVE COVERbULdLcMBER EIGHTEEN FULL STOPiLEVEN FULL STOPhFIFTEEN FULL STOP",
  "NUMBER FOURTEEN FULL STOPhNINETEEN FULL STOPhSEVENTEEN FULL STOPiIGNjXTEEN FULL STOP",
  "NUMBER TEN FULL STOPiHIRTEEN FULL STOPiWELVE FULL STOPkNTY FULL STOPdERO SIGN",
  "NUSHU CHARACTER-1B170u1u2u3u4u5u6u7u8u9uAuBuCuDuEuFt80u1u2u3u4u5u6u7u8u9uAuBuCuDuEuFt90u1u2u3u4",
  "NUSHU CHARACTER-1B195u6u7u8u9uAuBuCuDuEuFtA0u1u2u3u4u5u6u7u8u9uAuBuCuDuEuFtB0u1u2u3u4u5u6u7u8u9",
  "NUSHU CHARACTER-1B1BAuBuCuDuEuFtC0u1u2u3u4u5u6u7u8u9uAuBuCuDuEuFtD0u1u2u3u4u5u6u7u8u9uAuBuCuDuE",
  "NUSHU CHARACTER-1B1DFtE0u1u2u3u4u5u6u7u8u9uAuBuCuDuEuFtF0u1u2u3u4u5u6u7u8u9uAuBuCuDuEuFs200u1u2",
  "NUSHU CHARACTER-1B203u4u5u6u7u8u9uAuBuCuDuEuFt10u1u2u3u4u5u6u7u8u9uAuBuCuDuEuFt20u1u2u3u4u5u6u7",
  "NUSHU CHARACTER-1B228u9uAuBuCuDuEuFt30u1u2u3u4u5u6u7u8u9uAuBuCuDuEuFt40u1u2u3u4u5u6u7u8u9uAuBuC",
  "NUSHU CHARACTER-1B24DuEuFt50u1u2u3u4u5u6u7u8u9uAuBuCuDuEuFt60u1u2u3u4u5u6u7u8u9uAuBuCuDuEuFt70",
  "NUSHU CHARACTER-1B271u2u3u4u5u6u7u8u9uAuBuCuDuEuFt80u1u2u3u4u5u6u7u8u9uAuBuCuDuEuFt90u1u2u3u4u5",
  "NUSHU CHARACTER-1B296u7u8u9uAuBuCuDuEuFtA0u1u2u3u4u5u6u7u8u9uAuBuCuDuEuFtB0u1u2u3u4u5u6u7u8u9uA",
  "NUSHU CHARACTER-1B2BBuCuDuEuFtC0u1u2u3u4u5u6u7u8u9uAuBuCuDuEuFtD0u1u2u3u4u5u6u7u8u9uAuBuCuDuEuF",
  "NUSHU CHARACTER-1B2E0u1u2u3u4u5u6u7u8u9uAuBuCuDuEuFtF0u1u2u3u4u5u6u7u8u9uAuBgITERATION MARK",
  "NUT AND BOLTbYIAKENG PUACHUE HMONG CIRCLED CAxDIGIT EIGHTzeFIVEzfOURzeNINEzeONEzeSEVENzfIX",
  "NYIAKENG PUACHUE HMONG DIGIT THREEzfWOzeZEROxLETTER AzgAzfCAzfDAzgLAzfEzgEzfFAzfGAzfHAzhHzfI",
  "NYIAKENG PUACHUE HMONG LETTER KAzfLAzfMAzgLAzfNAzgCAzgKAzgPAzhLAzgQAzgRAzgTAzhSAzhXAzgYAzfOzgO",
  "NYIAKENG PUACHUE HMONG LETTER PAzgLAzfQAzfRAzgRAzfSAzfTAzgSAzgXAzfUzfVAzfWzfXAzgYAzfYAzfZA",
  "NYIAKENG PUACHUE HMONG LOGOGRAM NYAJxSIGN FOR ANIMALzhINVERTEBRATEzhLOCATIONzhPERSONzhTHING",
  "NYIAKENG PUACHUE HMONG SIGN XW XWyYLLABLE LENGTHENERxTONE-BzdDzdGzdJzdMzdSzdV",
  "OBJECT REPLACEMENT CHARACTERcLIQUE ANGLE OPENING DOWNwUPiHYPHENcSERVER EYE SYMBOL",
  "OCR AMOUNT OF CHECKeBELT BUCKLEfOW TIEfRANCH BANK IDENTIFICATIONeCHAIRfUSTOMER ACCOUNT NUMBER",
  "OCR DASHfOUBLE BACKSLASHeFORKeHOOKeINVERTED FORKcTAGONAL SIGNdOPUSbDENbFFICE BUILDING",
  "OGHAM FEATHER MARKgLETTER AILMnBEITHnCEIRToOLLnDAIRnEABHADHpDHADHpMHANCHOLLnFEARNnGORTnIFIN",
  "OGHAM LETTER IODHADHnLUISnMUINnNGEADALoIONnONNoRnPEITHnRUISnSAILoTRAIFnTINNEnUATHoILLEANNoR",
  "OGHAM REVERSED FEATHER MARKgSPACE MARKcONEKbHM SIGNbIL DRUMbK HAND SIGNbL CHIKI AHAD",
  "OL CHIKI DIGIT EIGHTpFIVEqOURpNINEpONEpSEVENqIXpTHREEqWOpZEROjGAAHLAA TTUDDAAGjLETTER AAJsKsMsW",
  "OL CHIKI LETTER AGrLrNGrTqEDDrNrPrRRqIHrNYrRrSqLAsArErIrOrUqOBrHrTTrVqUCrDrNNrYjMU TTUDDAG",
  "OL CHIKI MU-GAAHLAA TTUDDAAGjPHAARKAAkUNCTUATION DOUBLE MUCAADvMUCAADjRELAAcD CHINESE HOOK MARK",
  "OLD CHINESE ITERATION MARKeHUNGARIAN CAPITAL LETTER AzfAzfKzfMBzfNDzeCLOSE EzeEzfBzfCzgHzgSzfD",
  "OLD HUNGARIAN CAPITAL LETTER EEzfFzfGzgYzfHzfJzfKzfLzgYzfMzgPzfNzgCzgTzh-SHAPED SIGNzgYzfPzfR",
  "OLD HUNGARIAN CAPITAL LETTER ESzgZzfTzgYzfVzfZzgSzeIzfIzeNIKOLSBURG OEzpUEzeOzfEEzfO",
  "OLD HUNGARIAN CAPITAL LETTER RUDIMENTA OEzoUEzeSHORT ERzeUzfNKzfSzfUoNUMBER FIFTYxVEvONE",
  "OLD HUNGARIAN NUMBER ONE HUNDREDzTHOUSANDvTENoSMALL LETTER AzdAzdKzdMBzdNDzcCLOSE EzcEzdBzdCzeH",
  "OLD HUNGARIAN SMALL LETTER ECSzdDzdEzdFzdGzeYzdHzdJzdKzdLzeYzdMzePzdNzeCzeTzf-SHAPED SIGNzeYzdP",
  "OLD HUNGARIAN SMALL LETTER ERzdSzeZzdTzeYzdVzdZzeSzcIzdIzcNIKOLSBURG OEznUEzcOzdEEzdO",
  "OLD HUNGARIAN SMALL LETTER RUDIMENTA OEzmUEzcSHORT ERzcUzdNKzdSzdUeITALIC LETTER AsBEsCHEsDEsE",
  "OLD ITALIC LETTER EFtKStLtMtNtRuStSuHuSsHEsItIsKAtEtHEtUsNORTHERN TSEsOsPEtHEsSHEtOUTHERN TSE",
  "OLD ITALIC LETTER TEtHEsUtUsVEsYEsZElNUMERAL FIFTYvVEtONEtTENeKEYeNORTH ARABIAN LETTER AINzbLEF",
  "OLD NORTH ARABIAN LETTER BEHzDADzcLzES-1zd2zd3zFEHzGEEMzbHAINzHAHzbEHzKAFzbHAHzLAMzMEEMzNOON",
  "OLD NORTH ARABIAN LETTER QAFzREHzSADzTAHzbEHzbHALzcEHzWAWzYEHzZAHzcINsNUMBER ONEzTENzbWENTY",
  "OLD PERMIC LETTER ANsBURsCHERYsDOItZHOIuITAsEtFsGAIsHAsItAtEsKOKEsLEIsMENOEsNENOEsOtOsPEEIsREI",
  "OLD PERMIC LETTER SHCHOOIuOOItIIsTAItSIUsUsVERtOOIsYAuTtERvIvUtRYtUsZATAtHOI",
  "OLD PERSIAN NUMBER HUNDREDtONEtTENuWENTYvOmSIGN AsURAMAZDAAzc-2zcHArBAtGAsUUMISHrCArDAtHYAAUSH",
  "OLD PERSIAN SIGN DAHYAAUSH-2sIsUrFArGAsUrHArIrJAsIrKAsUrLArMAsIsUrNAsUrPArRAsUrSAsHAsSArTAsHAsU",
  "OLD PERSIAN SIGN UrVAsIrXAsSHAAYATHIYArYArZAmWORD DIVIDERiONAL COMPUTER",
  "OLD SOGDIAN FRACTION ONE HALFmLETTER ALEPHvTERNATE AYINuYINtBETHtFINAL ALEPHzBETHzHEzNUN",
  "OLD SOGDIAN LETTER FINAL NUN WITH VERTICAL TAILzSADHEzf WITH VERTICAL TAILzTAW",
  "OLD SOGDIAN LETTER FINAL TAW WITH VERTICAL TAILtGIMELtHEvTHtKAPHtLAMEDHtMEMtNUNtPE",
  "OLD SOGDIAN LETTER RESH-AYIN-DALETHtSADHEvMEKHuHINtTAWtWAWtYODHtZAYINnIGATURE AYIN-DALETH",
  "OLD SOGDIAN NUMBER FIVEuOURtONEw HUNDREDtTENuHIRTYvREEuWENTYvOgUTH ARABIAN LETTER ALEFzbYNzBETH",
  "OLD SOUTH ARABIAN LETTER DALETHzbHADHEzdLETHzFEzGHAYNzbIMELzHEzcTHzKAPHzbHETHzLAMEDHzMEMzNUN",
  "OLD SOUTH ARABIAN LETTER QOPHzRESHzSADHEzcMEKHzcTzbHINzTAWzbETHzbHAWzcETHzWAWzYODHzZAYN",
  "OLD SOUTH ARABIAN NUMBER FIFTYzONEvERIC INDICATOReTURKIC LETTER ORKHON AzbBzbDzbEBzcDzcGzcKzcL",
  "OLD TURKIC LETTER ORKHON AENzcRzcSzcTzcYzbGzbLzbNzbQzbRzbSzcHzbTzbYzBASHzECzbLTzbMzbNCzcGzcTzcY",
  "OLD TURKIC LETTER ORKHON EPzbSHzbZzIzbCzbQzOzbEzcKzbPzbQzbTsYENISEI AzcBzcDzcEzdBzdGzdKzdNzeG",
  "OLD TURKIC LETTER YENISEI AETzdYzcGzcLzcNGzcQzcRzcSHzcTzcYzbEzcCzcNCzdTzdYzcSHzcZzbIzcQzbOEzdK",
  "OLD TURKIC LETTER YENISEI OQeUYGHUR COMBINING DOT ABOVEzBELOWvTWO DOTS ABOVEzfBELOW",
  "OLD UYGHUR LETTER ALEPHsBETHsFINAL HETHsGIMEL-HETHsKAPHsLAMEDHtESHsMEMsNUNsPEsRESHsSADHEuMEKH",
  "OLD UYGHUR LETTER SHINsTAWsWAWsYODHsZAYINlPUNCTUATION BARxFOUR DOTSxTWO BARSzcDOTSdER ADULTgMAN",
  "OLDER WOMANcIVEbM SYMBOLbN WITH EXCLAMATION MARK WITH LEFT RIGHT ARROW ABOVEcCOMING AUTOMOBILE",
  "ONCOMING BUSjFIRE ENGINEjPOLICE CARjTAXIcE BUTTON MOUSEeDOT LEADERiOVER TWO DOTS PUNCTUATION",
  "ONE-PIECE SWIMSUITcIONbPEN BOOKhXfCENTRE ASTERISKmBLACK STARmCROSSmTEARDROP-SPOKED ASTERISK",
  "OPEN FILE FOLDERgOLDERfHANDS SIGNfLOCKfMAILBOX WITH LOWERED FLAGsRAISED FLAGfSUBSEThPERSET",
  "OPEN-CIRCUIT-OUTPUT H-TYPE SYMBOLuL-TYPE SYMBOLfOUTLINED RIGHTWARDS ARROWdRATING SYSTEM COMMAND",
  "OPHIUCHUScPOSITIONcTICAL DISCm ICONeON KEYbR WITH DOT INSIDEcANGE BOOKhHEARTfUTANcIGINAL OF",
  "ORIYA AI LENGTH MARKhU LENGTH MARKgDIGIT EIGHTmFIVEnOURmNINEmONEmSEVENnIXmTHREEnWOmZERO",
  "ORIYA FRACTION ONE EIGHTHtHALFtQUARTERtSIXTEENTHpTHREE QUARTERSvSIXTEENTHSgISSHARgLETTER AoAoI",
  "ORIYA LETTER AUnBAoHAnCAoHAnDAoDApHAoHAnEnGAoHAnHAnIoInJAoHAnKAoHAnLAoLAnMAnNAoGAoNAoYAnOnPAoHA",
  "ORIYA LETTER RAoHAoRAnSAoHAoSAnTAoHAoTApHAnUoUnVAoOCALIC LwLvRwRnWAnYAoYAgSIGN ANUSVARAmVAGRAHA",
  "ORIYA SIGN CANDRABINDUlNUKTAlOVERLINElVIRAMAnSARGAgVOWEL SIGN AAsIsUrErIsIrOrUsUrVOCALIC LzbLzR",
  "ORIYA VOWEL SIGN VOCALIC RRcNATE LEFT PARENTHESIShRIGHT PARENTHESIScTHODOX CROSS",
  "OSAGE CAPITAL LETTER AwHwIxNvBRAvCHAvDHAvEwHCHAxKAxPAxTAySAwINvGHAvHAwYAvIvKAwHAwYAvLAvMAvNAvO",
  "OSAGE CAPITAL LETTER OINvPAvSAwHAvTAwSAxHAvUvWAvZAwHAgSMALL LETTER AuHuIvNtBRAtCHAtDHAtEuHCHA",
  "OSAGE SMALL LETTER EHKAvPAvTAwSAuINtGHAtHAuYAtItKAuHAuYAtLAtMAtNAtOuINtPAtSAuHAtTAuSAvHAtUtWA",
  "OSAGE SMALL LETTER ZAuHAcCcMANYA DIGIT EIGHToFIVEpOURoNINEoONEoSEVENpIXoTHREEpWOoZEROiLETTER A",
  "OSMANYA LETTER AAqLEFpBApCAYNpDEELqHApEqEpFApGApHApIpJApKAAFqHApLAANpMIINpNUUNpOqOpQAAFpRApSA",
  "OSMANYA LETTER SHIINpTApUpWAWpXApYAbTTERdOMAN SIYAQ ALTERNATE NUMBER EIGHTzgFIVEzhOURzk HUNDRED",
  "OTTOMAN SIYAQ ALTERNATE NUMBER NINEzgSEVENzhIXzj HUNDREDzgTENzj THOUSANDzhHREEzhWOzj THOUSAND",
  "OTTOMAN SIYAQ FRACTION ONE HALFzcSIXTHoMARRATANoNUMBER EIGHTzb HUNDREDzcTHOUSANDzbYzc THOUSAND",
  "OTTOMAN SIYAQ NUMBER FIFTYzb THOUSANDxVEz HUNDREDzbTHOUSANDwORTYzb THOUSANDxURz HUNDRED",
  "OTTOMAN SIYAQ NUMBER FOUR THOUSANDvNINEz HUNDREDzbTHOUSANDzTYzc THOUSANDvONEy HUNDREDzTHOUSAND",
  "OTTOMAN SIYAQ NUMBER SEVENzb HUNDREDzcTHOUSANDzbTYzd THOUSANDwIXy HUNDREDzTHOUSANDyTY",
  "OTTOMAN SIYAQ NUMBER SIXTY THOUSANDvTENy THOUSANDwHIRTYzc THOUSANDxREEzb HUNDREDzcTHOUSAND",
  "OTTOMAN SIYAQ NUMBER TWENTYzc THOUSANDxOy HUNDREDzTHOUSANDbUNCE SIGNcTBOX TRAYdLINED BLACK STAR",
  "OUTLINED GREEK CROSSjLATIN CROSSjWHITE STARbVERHEATED FACEeLAPhPING BLACK SQUARES",
  "OVERLAPPING WHITE AND BLACK SQUARESsSQUARESfINEbWLbXbYSTERaPACKAGEcDdDING CHARACTERcGE",
  "PAGE FACING UPfWITH CIRCLED TEXTlURLeReSdODAcHAWH HMONG CLAN SIGN FAJxHAMzWJxKHAByOOyWMxLAUJyIS",
  "PAHAWH HMONG CLAN SIGN MUASxPHABxTHOJySABzHEEJzWBxVAJyWJxXYOOJxYAJyEEGoONSONANT AUxCAUyHAUxHAU",
  "PAHAWH HMONG CONSONANT HLAUyNAUxLAUxMAUxNAUyCHAUyKAUyLAUyTHAUzSAUxPLHAUxQHAUxRAUxVAUxXAUxYAU",
  "PAHAWH HMONG DIGIT EIGHTtFIVEuOURtNINEtONEtSEVENuIXtTHREEuWOtZEROnMARK CIM HOMwKESxHAVwSOxUAM",
  "PAHAWH HMONG MARK CIM TAUMxUBnNUMBER HUNDRED MILLIONSzcSuMILLIONSuTEN BILLIONSyTHOUSANDSxS",
  "PAHAWH HMONG NUMBER TRILLIONSnSIGN AVsCIM CHEEMxUAM TSHOOJwHAIS LUS NTOG NTOGwNRES TOSwPUB DAWB",
  "PAHAWH HMONG SIGN CIM TSOV ROGxXWVzb CHWVsHLItNUBsIB YAMsLOSsMEEJ SUABxTSEEBtUSsNQIGtTUJsTAU",
  "PAHAWH HMONG SIGN THIRD-STAGE HLItXHEEJ CEEVsVOS FEEMwLUBwNRUAwSEEVwTHIAByOMxSHAB CEEBsXAUStIAB",
  "PAHAWH HMONG SIGN XYEEM FAIByNTXIVyRHOyTOVuOOsZWJ THAJnVOWEL KAABwVvBvIBwVvUBwVvVvWBwVuEBvEBwV",
  "PAHAWH HMONG VOWEL KEVuIABwVvBvVuOBvOBwVvVuUABwVvBvVuWBvVcLLASdM BRANCHfDOWN HANDfTREEfUP HAND",
  "PALMS UP TOGETHEReYRENE LEFT-POINTING FLEURONmTTER ALEPHsYINrBETHrDALETHrFINAL NUNrGIMELrHEtTH",
  "PALMYRENE LETTER KAPHrLAMEDHrMEMrNUNrPErQOPHrRESHrSADHEtMEKHsHINrTAWsETHrWAWrYODHrZAYIN",
  "PALMYRENE NUMBER FIVEsOURrONErTENsHREEsWENTYtOkRIGHT-POINTING FLEURONcNCAKESdDA FACEcPERCLIP",
  "PARACHUTEeGRAPH SEPARATORjOSjUS MARKeLLEL TOjWITH HORIZONTAL STROKEoTILDE OPERATOR",
  "PARENTHESIZED DIGIT EIGHTuFIVEvOURuNINEuONEuSEVENvIXuTHREEvWOoHANGUL CHIEUCHzd AwIEUCzb AzcU",
  "PARENTHESIZED HANGUL HIEUHzb AvIEUNGzb AvKHIEUKHzd AwIYEOKzc AvMIEUMzb AvNIEUNzb AvPHIEUPHzd A",
  "PARENTHESIZED HANGUL PIEUPzb AvRIEULzb AvSIOSz AvTHIEUTHzd AwIKEUTzc AoIDEOGRAPH ALLIANCEyCALL",
  "PARENTHESIZED IDEOGRAPH CONGRATULATIONyEARTHzIGHTzNTERPRISEyFESTIVALzINANCIALzbREzbVEzOURyHAVE",
  "PARENTHESIZED IDEOGRAPH LABORyMETALzOONyNAMEzINEyONEyREACHzbPRESENTzbSOURCEzcTySELFzbVENzIX",
  "PARENTHESIZED IDEOGRAPH SOCIETYzPECIALzTOCKzbUDYzUNzbPERVISEyTENzHREEzWOyWATERzOOD",
  "PARENTHESIZED KOREAN CHARACTER O HUzhJEONoLATIN CAPITAL LETTER AzkBzkCzkDzkEzkFzkGzkHzkIzkJzkK",
  "PARENTHESIZED LATIN CAPITAL LETTER LzkMzkNzkOzkPzkQzkRzkSzkTzkUzkVzkWzkXzkYzkZuSMALL LETTER A",
  "PARENTHESIZED LATIN SMALL LETTER BziCziDziEziFziGziHziIziJziKziLziMziNziOziPziQziRziSziTziUziV",
  "PARENTHESIZED LATIN SMALL LETTER WziXziYziZoNUMBER EIGHTEENwLEVENvFIFTEENwOURTEENvNINETEEN",
  "PARENTHESIZED NUMBER SEVENTEENwIXTEENvTENwHIRTEENwWELVEyNTYdROTdT ALTERNATION MARK",
  "PARTIAL DIFFERENTIALiLINE BACKWARDnDOWNnFORWARDnUPhLY-RECYCLED PAPER SYMBOLeNERSHIP SIGN",
  "PARTY POPPERcSSED SYMBOLfNGER SHIPeIVE-PULL-DOWN-OUTPUT SYMBOLnUP-OUTPUT SYMBOLePORT CONTROL",
  "PAU CIN HAU GLOTTAL STOPy FINALzVARIANTmLETTER AtBAtCAuHAtDAtEtFAuINAL KzLzMzNzbGzPzTzWzYtGAtHA",
  "PAU CIN HAU LETTER IuAtKAuHAtLAtMAtNAuGAtOtPAuHAtRAtSAtTAuHAtUuAtVAtZAnOW-FALLING TONEzd FINAL",
  "PAU CIN HAU LOW-FALLING TONE LONGzi FINALmMID-LEVEL TONEzb FINALzcLONG FINALmRISING TONEx FINAL",
  "PAU CIN HAU RISING TONE LONGzd FINALmSANDHI GLOTTAL STOPzg FINALtTONEx FINALyLONGzd FINAL",
  "PAW PRINTSbDFcIbEACE SYMBOLeHeOCKdNUTSdRcDESTRIANcN OVER STAMPED ENVELOPEdCILdGUINdSIVE FACE",
  "PENTAGRAMcOPLE HUGGINGcR MILLE SIGNeSIGNeTEN THOUSAND SIGNdCENT SIGNdFORMING ARTS",
  "PERMANENT PAPER SIGNdPENDICULARn WITH SdSEVERING FACEeON BOWING DEEPLYhCLIMBINGhDOING CARTWHEEL",
  "PERSON FROWNINGhIN LOTUS POSITIONkSTEAMY ROOMhRAISING BOTH HANDS IN CELEBRATIONhWITH BALL",
  "PERSON WITH BLOND HAIRmCROWNmFOLDED HANDSmHEADSCARFmPOUTING FACEgAL COMPUTERePECTIVEcSETA SIGN",
  "PESO SIGNcTRI DISHbHAGS-PA DOUBLE HEAD MARKjLETTER ArLTERNATE YArSPIRATED FAqBAqCAsNDRABINDUrHA",
  "PHAGS-PA LETTER DArDArZAqErEqFAqGArGAqHAqIqJAqKArHAqLAqMAqNArGArNArYAqOqPArHAqQAqRAqSArHA",
  "PHAGS-PA LETTER SMALL AqTArHArSAsHArTAsHAqUqVOICED HAvLESS SHAqWAqXAqYAqZArHAjMARK DOUBLE SHAD",
  "PHAGS-PA MARK SHADjSINGLE HEAD MARKkUBJOINED LETTER RAzbWAzbYAlPERFIXED LETTER RA",
  "PHAISTOS DISC SIGN ARROWtBEEwHIVEuOOMERANGvWuULLS LEGtCAPTIVEvRPENTRY PLANEvTuHILDuLUBuOLUMNvMB",
  "PHAISTOS DISC SIGN COMBINING OBLIQUE STROKEtDOLIUMvVEtEAGLEtFLUTEtGAUNTLETuRATERtHELMETuIDEuORN",
  "PHAISTOS DISC SIGN LIDvLYtMANACLESvTTOCKtOX BACKtPAPYRUSuEDESTRIANuLANE TREEvUMED HEADtRAM",
  "PHAISTOS DISC SIGN ROSETTEtSAWuHIELDwPuLINGuMALL AXEuTRAINERtTATTOOED HEADuIARAuUNNYtVINE",
  "PHAISTOS DISC SIGN WAVY BANDuOMANcILIPPINE DOUBLE PUNCTUATIONlSINGLE PUNCTUATION",
  "PHOENICIAN LETTER AINtLFsBETsDELTsGAMLsHEuTsKAFsLAMDsMEMsNUNsPEsQOFsROSHsSADEtEMKtHINsTAUtET",
  "PHOENICIAN LETTER WAUsYODsZAIlNUMBER ONEv HUNDREDsTENtHREEtWENTYuOlWORD SEPARATORdLUSbICK",
  "PICKUP TRUCKcEcGd FACEeNOSEcLCROW SIGNdE OF POOdLcNATAdCHED FINGERSfING HANDdE DECORATIONeAPPLE",
  "PINWHEEL STARcSCESdTOLcTCHFORKj WITH TEE TOPbLACARDeE OF INTEREST SIGNjWORSHIPdNCK CONSTANT",
  "PLANCK CONSTANT OVER TWO PIdYGROUND SLIDEeING CARD ACE OF CLUBSuDIAMONDSuHEARTSuSPADESnBACK",
  "PLAYING CARD BLACK JOKERnEIGHT OF CLUBSwDIAMONDSwHEARTSwSPADESnFIVE OF CLUBSvDIAMONDSvHEARTS",
  "PLAYING CARD FIVE OF SPADESoOOLpUR OF CLUBSvDIAMONDSvHEARTSvSPADESnJACK OF CLUBSvDIAMONDS",
  "PLAYING CARD JACK OF HEARTSvSPADESnKING OF CLUBSvDIAMONDSvHEARTSvSPADESoNIGHT OF CLUBSxDIAMONDS",
  "PLAYING CARD KNIGHT OF HEARTSxSPADESnNINE OF CLUBSvDIAMONDSvHEARTSvSPADESnQUEEN OF CLUBS",
  "PLAYING CARD QUEEN OF DIAMONDSwHEARTSwSPADESnRED JOKERnSEVEN OF CLUBSwDIAMONDSwHEARTSwSPADES",
  "PLAYING CARD SIX OF CLUBSuDIAMONDSuHEARTSuSPADESnTEN OF CLUBSuDIAMONDSuHEARTSuSPADES",
  "PLAYING CARD THREE OF CLUBSwDIAMONDSwHEARTSwSPADESoRUMP-1u0u1u2u3u4u5u6u7u8u9t2u0u1t3t4t5t6t7t8",
  "PLAYING CARD TRUMP-9oWO OF CLUBSuDIAMONDSuHEARTSuSPADESnWHITE JOKERcDcUdNGERdS SIGN",
  "PLUS SIGN ABOVE EQUALS SIGNkIN LEFT HALF CIRCLEnRIGHT HALF CIRCLEnTRIANGLEkWITH BLACK TRIANGLE",
  "PLUS SIGN WITH CIRCUMFLEX ACCENT ABOVEpDOT BELOWpSMALL CIRCLE ABOVEqUBSCRIPT TWOpTILDE ABOVE",
  "PLUS SIGN WITH TILDE BELOWe-MINUS SIGNdTOf FORM FIVEmOURlTHREEmWObMbOCKET CALCULATORcLICE CAR",
  "POLICE CARS REVOLVING LIGHThOFFICERcODLEcP DIRECTIONAL FORMATTINGqISOLATEdCORNcRTABLE STEREO",
  "POSEIDONdITION INDICATORdTAL HORNhMARKl FACEeBOXcT OF FOODdABLE WATER SYMBOLeTOdTED PLANTcUCH",
  "POULTRY LEGdND SIGNdRING LIQUIDdTING CAT FACEiFACEcWER ON SYMBOLi-OFF SYMBOLgSLEEP SYMBOLhYMBOL",
  "PRAYER BEADScECEDESi ABOVE ALMOST EQUAL TOpEQUALS SIGNpNOT ALMOST EQUAL TOtEQUAL TO",
  "PRECEDES ABOVE SINGLE-LINE EQUALS SIGNzcNOT EQUAL TOjBUT NOT EQUIVALENT TOjOR EQUAL TO",
  "PRECEDES OR EQUIVALENT TOjUNDER RELATIONdGNANT MANjPERSONjWOMANdSCRIPTION TAKE",
  "PRESENTATION FORM FOR VERTICAL COLONziMMAzgEM DASHzhN DASHzhXCLAMATION MARK",
  "PRESENTATION FORM FOR VERTICAL HORIZONTAL ELLIPSISzgIDEOGRAPHIC COMMAzsFULL STOP",
  "PRESENTATION FORM FOR VERTICAL LEFT ANGLE BRACKETzlBLACK LENTICULAR BRACKETzlCORNER BRACKET",
  "PRESENTATION FORM FOR VERTICAL LEFT CURLY BRACKETzlDOUBLE ANGLE BRACKETzlPARENTHESIS",
  "PRESENTATION FORM FOR VERTICAL LEFT SQUARE BRACKETzlTORTOISE SHELL BRACKET",
  "PRESENTATION FORM FOR VERTICAL LEFT WHITE CORNER BRACKETzrLENTICULAR BRACKETzhOW LINE",
  "PRESENTATION FORM FOR VERTICAL QUESTION MARKzgRIGHT ANGLE BRACKETzmBLACK LENTICULAR BRACKET",
  "PRESENTATION FORM FOR VERTICAL RIGHT CORNER BRACKETznURLY BRACKETzmDOUBLE ANGLE BRACKET",
  "PRESENTATION FORM FOR VERTICAL RIGHT PARENTHESISzmSQUARE BRACKETzmTORTOISE SHELL BRACKET",
  "PRESENTATION FORM FOR VERTICAL RIGHT WHITE CORNER BRACKETzsLENTICULAR BRACKETzzhKCETzgSEMICOLON",
  "PRESENTATION FORM FOR VERTICAL TWO DOT LEADERzgWAVY LOW LINEdTZELdVIOUS PAGEcIMEdNCEgSS",
  "PRINT SCREEN SYMBOLfERh ICONdVACY MESSAGEfTE USE ONEmTWOl-1m2cOBING CANEdHIBITED SIGNdJECTIVE",
  "PROPERTY LINEeORTIONkAL TOdSERPINAbSALTER PAHLAVI FOUR DOTS WITH CROSSzgDOTqLETTER ALEPHxBETH",
  "PSALTER PAHLAVI LETTER DALETHxGIMELxHEzTHxKAPHxLAMEDHxMEM-QOPHxNUNxPExSADHEzMEKHyHINxTAW",
  "PSALTER PAHLAVI LETTER WAW-AYIN-RESHxYODHxZAYINqNUMBER FOURxONEzb HUNDREDxTENyHREEyWENTYzO",
  "PSALTER PAHLAVI SECTION MARKqTURNED SECTION MARKbU1c2cBLIC ADDRESS LOUDSPEAKERcNCTUATION SPACE",
  "PUNCTUS ELEVATUS MARKcRPLE HEARTdSEcSHPINcT LITTER IN ITS PLACE SYMBOLaQUADRANT LOWER LEFT",
  "QUADRANT LOWER RIGHTjUPPER LEFTt AND LOWER LEFT AND LOWER RIGHTzfRIGHT",
  "QUADRANT UPPER LEFT AND UPPER RIGHT AND LOWER LEFTzvRIGHTpRIGHTu AND LOWER LEFT",
  "QUADRANT UPPER RIGHT AND LOWER LEFT AND LOWER RIGHTfUPLE INTEGRAL OPERATORkPRIMEdRTER NOTE",
  "QUATERNION INTEGRAL OPERATORcESTION EXCLAMATION MARKjMARKiED EQUAL TOcINCUNXcOTATION MARK",
  "RABBITg FACEcCCOONdING CARhMOTORCYCLEcDICAL SYMBOL BOTTOMeOf BUTTONfACTIVE SIGNcILWAY CARiTRACK",
  "RAINeBOWdSED BACK OF HANDhCOMMAhDOTkTED INTERPOLATION MARKERhFISThHANDl WITH FINGERS SPLAYED",
  "RAISED HAND WITH PART BETWEEN MIDDLE AND RING FINGERShINTERPOLATION MARKERhMC SIGNiD SIGN",
  "RAISED MR SIGNhSQUAREcMcTdIOcZORbECEIPTdORD SEPARATORdREATIONAL VEHICLEdYCLED PAPER SYMBOL",
  "RECYCLING SYMBOL FOR GENERIC MATERIALSvTYPE-1 PLASTICSzb2 PLASTICSzb3 PLASTICSzb4 PLASTICS",
  "RECYCLING SYMBOL FOR TYPE-5 PLASTICSzb6 PLASTICSzb7 PLASTICScD APPLEeGIFT ENVELOPEcFERENCE MARK",
  "REGIONAL INDICATOR SYMBOL LETTER AziBziCziDziEziFziGziHziIziJziKziLziMziNziOziPziQziRziSziTziU",
  "REGIONAL INDICATOR SYMBOL LETTER VziWziXziYziZeSTERED SIGNcJANG CONSONANT SIGN HwNxGwRhLETTER A",
  "REJANG LETTER BAoCAoDAoGAoHAoJAoKAoLAoMApBAoNApDApGAqGApYAqJAoPAoRAoSAoTAoWAoYAhSECTION MARK",
  "REJANG VIRAMAiOWEL SIGN AItUsEtAtUsIsOsUcLIEVED FACEcMINDER RIBBONcPLACEMENT CHARACTERcSPONSE",
  "RESTRICTED LEFT ENTRY-1w2fOOMcTURN LEFThRIGHThSYMBOLcVERSE CHECKER BOARDiINDEX",
  "REVERSE LIGHT FOUR POINTED PINWHEEL STARkNE FEEDiSOLIDUSp OPERATORqPRECEDING SUBSET",
  "REVERSE SOLIDUS WITH HORIZONTAL STROKEiTILDE OPERATOR ABOVE LEFTWARDS ARROWzeRIGHTWARDS ARROW",
  "REVERSED ANGLEo WITH UNDERBARjCOMMAjDOUBLE PRIMEv QUOTATION MARKqSTROKE NOT SIGNjEMPTY SET",
  "REVERSED FORKED PARAGRAPHOSjHAND WITH MIDDLE FINGER EXTENDEDjNOT SIGNjPILCROW SIGNkRIME",
  "REVERSED QUESTION MARKjRAISED HAND WITH FINGERS SPLAYEDkIGHT ANGLEkOTATED FLORAL HEART BULLET",
  "REVERSED SANS-SERIF CAPITAL LkEMICOLONjTHUMBS DOWN SIGNqUP SIGNkILDEo EQUALSkRIPLE PRIME",
  "REVERSED VICTORY HANDdOLVING HEARTSbHINOCEROSbIcAL SIGNcBBONg ARROW DOWN LEFTsRIGHTnLEFT DOWN",
  "RIBBON ARROW LEFT UPnRIGHT DOWNtUPnUP LEFTqRIGHTcCE BALLfCRACKERcFLE",
  "RIGHT AND LOWER ONE EIGHTH BLOCKkUPPER ONE EIGHTH BLOCKiGER BUBBLEjLEl BRACKETt WITH DOT",
  "RIGHT ANGLE DOTTED SUBSTITUTION MARKERmSUBSTITUTION MARKERmVARIANT WITH SQUAREmWITH ARC",
  "RIGHT ANGLE WITH DOWNWARDS ZIGZAG ARROWhRC GREATER-THAN BRACKETiROW WITH CIRCLED PLUS",
  "RIGHT ARROW WITH SMALL CIRCLEgBLACK LENTICULAR BRACKETmTORTOISE SHELL BRACKETgCEILING",
  "RIGHT CORNER BRACKEThURLY BRACKETt LOWER HOOKuMIDDLE PIECEuUPPER HOOK",
  "RIGHT DOTTED SUBSTITUTION BRACKETiUBLE ANGLE BRACKEToRROW WITH ROUNDED HEADnPARENTHESIS",
  "RIGHT DOUBLE QUOTATION MARKnWIGGLY FENCEgFISH TAILiVE EIGHTHS BLOCKhLOORgHALF BLACK CIRCLErSTAR",
  "RIGHT HALF BLOCKlFOLDERlMEDIUM SHADElRUNNING MANiND TELEPHONE RECEIVERgLOW PARAPHRASE BRACKET",
  "RIGHT NORMAL FACTOR SEMIDIRECT PRODUCTgONE EIGHTH BLOCKkQUARTER BLOCKhPEN SQUARED DOThUTER JOIN",
  "RIGHT PARENTHESISr EXTENSIONsLOWER HOOKsUPPER HOOKgRAISED OMISSION BRACKET",
  "RIGHT S-SHAPED BAG DELIMITERhEMIDIRECT PRODUCTiVEN EIGHTHS BLOCKhIDEWAYS U BRACKET",
  "RIGHT SINGLE QUOTATION MARKhPEAKERn WITH ONE SOUND WAVEtTHREE SOUND WAVESjECH BUBBLE",
  "RIGHT SQUARE BRACKETu EXTENSIONvLOWER CORNERvUPPER CORNERvWITH DOUBLE STROKEzbQUILLzbSTROKE",
  "RIGHT SQUARE BRACKET WITH TICK IN BOTTOM CORNERzjTOP CORNERzbUNDERBARhUBSTITUTION BRACKETgTACK",
  "RIGHT THIRD WHITE RIGHT POINTING INDEXiOUGHT BUBBLEiREE EIGHTHS BLOCKmQUARTERS BLOCK",
  "RIGHT TORTOISE SHELL BRACKEThRANSPOSITION BRACKETiIANGLEo ABOVE LEFT TRIANGLE",
  "RIGHT TRIANGULAR ONE QUARTER BLOCKgVERTICAL BAR WITH QUILLqOX LINEgWHITE CORNER BRACKET",
  "RIGHT WHITE CURLY BRACKETmLENTICULAR BRACKETmPARENTHESISmSQUARE BRACKETmTORTOISE SHELL BRACKET",
  "RIGHT WIGGLY FENCEf-FACING ARMENIAN ETERNITY SIGNnFISTnSVASTI SIGNy WITH DOTS",
  "RIGHT-HANDED INTERLACED PENTAGRAMgPOINTING ANGLE BRACKETpCURVED ANGLE BRACKET",
  "RIGHT-POINTING DOUBLE ANGLE QUOTATION MARKpMAGNIFYING GLASSgSHADED WHITE RIGHTWARDS ARROW",
  "RIGHT-SIDE ARC CLOCKWISE ARROWgTO-LEFT EMBEDDINGoISOLATEoMARKoOVERRIDEfHAND INTERIOR PRODUCT",
  "RIGHTWARDS ARROWq ABOVE ALMOST EQUAL TOxREVERSE ALMOST EQUAL TOzgTILDE OPERATOR",
  "RIGHTWARDS ARROW ABOVE SHORT LEFTWARDS ARROWxTILDE OPERATORsND UPPER AND LOWER ONE EIGHTH BLOCK",
  "RIGHTWARDS ARROW FROM BARz TO BLACK DIAMONDrOVER LEFTWARDS ARROWrTHROUGH GREATER-THANzSUPERSET",
  "RIGHTWARDS ARROW THROUGH XsO BARvLACK DIAMONDrWITH CORNER DOWNWARDSwDOTTED STEM",
  "RIGHTWARDS ARROW WITH DOUBLE VERTICAL STROKEwEQUILATERAL ARROWHEADwHOOK",
  "RIGHTWARDS ARROW WITH LARGE TRIANGLE ARROWHEADxOOPwMEDIUM TRIANGLE ARROWHEADwNOTCHED TAIL",
  "RIGHTWARDS ARROW WITH PLUS BELOWwSMALL EQUILATERAL ARROWHEADzdTRIANGLE ARROWHEADxTROKEwTAIL",
  "RIGHTWARDS ARROW WITH TAIL WITH DOUBLE VERTICAL STROKEzhVERTICAL STROKExIP DOWNWARDSzbUPWARDS",
  "RIGHTWARDS ARROW WITH VERTICAL STROKEq-TAILlBACK-TILTED SHADOWED WHITE ARROWmLACK ARROW",
  "RIGHTWARDS BLACK CIRCLED WHITE ARROWmOTTOM SHADED WHITE ARROWlCOMPRESSED ARROWlDASHED ARROW",
  "RIGHTWARDS DOUBLE ARROWx FROM BARyWITH STROKEzeVERTICAL STROKEx-TAILsDASH ARROW",
  "RIGHTWARDS FINGER-POST ARROWmRONT-TILTED SHADOWED WHITE ARROWlHANDnRPOON OVER LEFTWARDS HARPOON",
  "RIGHTWARDS HARPOON WITH BARB DOWN ABOVE LEFTWARDS HARPOON WITH BARB DOWNzjBELOW LONG DASH",
  "RIGHTWARDS HARPOON WITH BARB DOWN FROM BARzjTO BARziWARDS",
  "RIGHTWARDS HARPOON WITH BARB UP ABOVE LEFTWARDS HARPOON WITH BARB UPzoONG DASH",
  "RIGHTWARDS HARPOON WITH BARB UP ABOVE RIGHTWARDS HARPOON WITH BARB DOWNzhFROM BARzhTO BAR",
  "RIGHTWARDS HARPOON WITH BARB UPWARDSmEAVY ARROWrCOMPRESSED ARROWlLEFT-SHADED WHITE ARROW",
  "RIGHTWARDS OPEN-HEADED ARROWlPAIRED ARROWSlQUADRUPLE ARROWlRIGHT-SHADED WHITE ARROWmOCKET",
  "RIGHTWARDS SANS-SERIF ARROWmQUARED ARROWoIGGLE ARROWlTOP SHADED WHITE ARROWmRIANGLE ARROWHEAD",
  "RIGHTWARDS TRIANGLE-HEADED ARROWzh OVER LEFTWARDS TRIANGLE-HEADED ARROWziTO BAR",
  "RIGHTWARDS TRIANGLE-HEADED ARROW WITH BOLD SHAFTznDOUBLE HORIZONTAL STROKEzuVERTICAL STROKE",
  "RIGHTWARDS TRIANGLE-HEADED ARROW WITH HEAVY SHAFTznLONG TIP DOWNWARDSzwUPWARDSznMEDIUM SHAFT",
  "RIGHTWARDS TRIANGLE-HEADED ARROW WITH NARROW SHAFTznVERY HEAVY SHAFTzcDASHED ARROW",
  "RIGHTWARDS TRIANGLE-HEADED PAIRED ARROWSoPLE ARROWsDASH ARROWmWO HEADED ARROW",
  "RIGHTWARDS TWO-HEADED ARROW FROM BARzdWITH DOUBLE VERTICAL STROKEziTAIL",
  "RIGHTWARDS TWO-HEADED ARROW WITH TAIL WITH DOUBLE VERTICAL STROKEzsVERTICAL STROKE",
  "RIGHTWARDS TWO-HEADED ARROW WITH TRIANGLE ARROWHEADSziVERTICAL STROKEwTRIPLE DASH ARROW",
  "RIGHTWARDS WAVE ARROWmHITE ARROWw FROM WALLxWITHIN TRIANGLE ARROWHEADcNGe ABOVEfBUOYfEQUAL TO",
  "RING IN EQUAL TOfOPERATORfPOINTeED PLANETeING BELLcSING DIAGONAL CROSSING FALLING DIAGONAL",
  "RISING DIAGONAL CROSSING SOUTH EAST ARROWbLEcIcMcObOASTED SWEET POTATOcBOT FACEcCKeET",
  "ROLL OF PAPEReED-UP NEWSPAPERfR COASTERhSKATEeING ON THE FLOOR LAUGHINGcMAN AS SIGN",
  "ROMAN CENTURIAL SIGNgDENARIUS SIGNhIMIDIA SEXTULA SIGNhUPONDIUS SIGNgNUMERAL EIGHTpLEVENoFIFTY",
  "ROMAN NUMERAL FIFTY EARLY FORMuTHOUSANDqVEs HUNDREDtTHOUSANDpOURoNINEoONEr HUNDREDz THOUSAND",
  "ROMAN NUMERAL ONE THOUSANDzb C DoREVERSED ONE HUNDREDoSEVENpIXr LATE FORMoTENr THOUSANDpHREE",
  "ROMAN NUMERAL TWELVEqOgQUINARIUS SIGNgSEMUNCIA SIGNiSTERTIUS SIGNiXTANS SIGNkULA SIGN",
  "ROMAN SILIQUA SIGNgUNCIA SIGNcOSTERcSEeTTEcTATED CAPITAL QiFLORAL HEART BULLET",
  "ROTATED HEAVY BLACK HEART BULLETiLIGHT FOUR POINTED BLACK CUSPiWHITE FOUR POINTED CUSP",
  "ROUND PUSHPINgTARGETfED SYMBOL FOR CAItFUtLUtSHOUvUANGXItXIcWBOATbSbUBLE SIGNcGBY FOOTBALL",
  "RULE-DELAYEDcMI DIGIT EIGHTlFIVEmOURlNINElONElSEVENmIXlTHREEmWOfFRACTION ONE HALFsQUARTERsTHIRD",
  "RUMI FRACTION TWO THIRDSfNUMBER EIGHT HUNDREDrYmFIFTYoVE HUNDREDnORTYoUR HUNDREDmNINE HUNDRED",
  "RUMI NUMBER NINETYmONE HUNDREDmSEVEN HUNDREDrTYnIX HUNDREDpTYmTENnHIRTYoREE HUNDREDnWENTY",
  "RUMI NUMBER TWO HUNDREDcNIC ARLAUG SYMBOLgBELGTHOR SYMBOLgCROSS PUNCTUATIONgLETTER AC AoESC",
  "RUNIC LETTER ALGIZ EOLHXoNSUZ AnBERKANAN BEORC BJARKAN BnCoALCoEALCpNoWEORTHnDoAGAZ DAEG D",
  "RUNIC LETTER DOTTED-LuNuPnEoARoHWAZ EH EoNGoTHnFEHU FEOH FE FoRANKS CASKET ACzdESCzcEHzcISzcOS",
  "RUNIC LETTER GoARoEBO GYFU GpRnHAEGL HpGLAZ HnICELANDIC-YRoNGqWAZoORoSAZ IS ISS IoWAZ EOH",
  "RUNIC LETTER JERAN JnKoAUN KrAnLAUKAZ LAGU LOGR LoONG-BRANCH-AR AEzHAGALL HzMADR MzOSS OzYR",
  "RUNIC LETTER MANNAZ MAN MnNAUDIZ NYD NAUD NnOoEoNoOoPEN-PoS OoTHALAN ETHEL OnPERTHO PEORTH PnQ",
  "RUNIC LETTER RAIDO RAD REID RnSHpORT-TWIG-AR AyBJARKAN ByHAGALL HyMADR MyNAUD NyOSS OySOL S",
  "RUNIC LETTER SHORT-TWIG-TYR TyYRoIGEL LONG-BRANCH-SOL SoOWILO SoTANnTHURISAZ THURS THORN",
  "RUNIC LETTER TIWAZ TIR TYR TnURUZ UR UnVnWoUNJO WYNN WnXnYoRnZgMULTIPLE PUNCTUATION",
  "RUNIC SINGLE PUNCTUATIONgTVIMADUR SYMBOLdNEReING SHIRT WITH SASHcPEE SIGN",
  "RUSSIAN ASTROLOGICAL SYMBOL BINOVILEzdNOVILEzdQUINTILEzdSENTAGONzdTREDECILEzdVIGINTILE",
  "S IN TRIANGLEbAFETY PINhVESTcGITTARIUScILBOATcKE BOTTLE AND CUPcLT SHAKEReIREdUTING FACE",
  "SAMARITAN ABBREVIATION MARKkLETTER ALAFrBAAsITrDALATrFIrGAMANrINsTsYrKAAFrLABATrMIMrNUNrQUF",
  "SAMARITAN LETTER RISHrSHANsINGAATrTAAFsITsSAADIYrYUTrZENkMARK DAGESHpEPENTHETIC YUTpINr-ALAF",
  "SAMARITAN MARK NEQUDAApOCCLUSIONlODIFIER LETTER EPENTHETIC YUTzbIzbSHORT AkPUNCTUATION AFSAAQ",
  "SAMARITAN PUNCTUATION ANGEDyNAAUxRKAANUxTMAAUwBAUwMELODIC QITSAwNEQUDAAwQITSAwSHIYYAALAA",
  "SAMARITAN PUNCTUATION SOF MASHFAATwTURUwZAEFxIQAAkVOWEL SIGN AwAvEvIvLONG AzcAzbEzbIzbUvO",
  "SAMARITAN VOWEL SIGN OVERLONG AzgAvSHORT AwUKUNvUcNDWICH",
  "SANS-SERIF HEAVY DOUBLE COMMA QUOTATION MARK ORNAMENTyTURNED COMMA QUOTATION MARK ORNAMENT",
  "SANS-SERIF HEAVY LOW DOUBLE COMMA QUOTATION MARK ORNAMENTlINTERROBANG ORNAMENTcRIcTELLITE",
  "SATELLITE ANTENNAdURNcURASHTRA CONSONANT SIGN HAARUlDANDAmIGIT EIGHTrFIVEsOURrNINErONErSEVENsIX",
  "SAURASHTRA DIGIT THREEsWOrZEROmOUBLE DANDAlLETTER AtAtItUsBAtHAsCAtHAsDAtDAuHAtHAsEtEsGAtHAsHA",
  "SAURASHTRA LETTER ItIsJAtHAsKAtHAsLAtLAsMAsNAtGAtNAtYAsOtOsPAtHAsRAsSAtHAtSAsTAtHAtTAuHAsUtUsVA",
  "SAURASHTRA LETTER VOCALIC LzcLzbRzcRsYAlSIGN ANUSVARAqCANDRABINDUqVIRAMAsSARGAlVOWEL SIGN AAxI",
  "SAURASHTRA VOWEL SIGN AUwExEwIxIwOxOwUxUwVOCALIC LzgLzfRzgReOPODcXOPHONEbCALESdRFcHOOLg SATCHEL",
  "SCIcOOTERdRPIONgUScREENeWDRIVERdIPT CAPITAL BpEpFpHpIpLpMpPpRhLIGATURE ET ORNAMENThSMALL EnGnL",
  "SCRIPT SMALL OdOLLdUPLEbEALdTcCOND PLACE MEDALdTION SIGNeORcDNAcE-NO-EVIL MONKEYdDLINGcGMENT",
  "SEGMENTED DIGIT EIGHTqFIVErOURqNINEqONEqSEVENrIXqTHREErWOqZEROcLFIEcMICOLON",
  "SEMIDIRECT PRODUCT WITH BOTTOM CLOSEDeSEXTILEcPARATED SYMBOL",
  "SERIOUS FACE WITH SYMBOLS COVERING MOUTHdVICE MARKcSAME DOTdQUIQUADRATEcT MINUSeTRANSMIT STATE",
  "SEWING NEEDLEcXTILEbGCbHADOWED WHITE CIRCLEpLATIN CROSSpSTARdLLOW PAN OF FOODdMROCK",
  "SHARADA ABBREVIATION SIGNiCONTINUATION SIGNiDANDAjIGIT EIGHToFIVEpOURoNINEoONEoSEVENpIXoTHREE",
  "SHARADA DIGIT TWOoZEROjOUBLE DANDAiEKAMjXTRA SHORT VOWEL MARKiHEADSTROKEiLETTER AqAqIqUpBAqHA",
  "SHARADA LETTER CAqHApDAqDArHAqHApEpGAqHApHApIqIpJAqHApKAqHApLAqLApMApNAqGAqNAqYApOpPAqHApRApSA",
  "SHARADA LETTER SHAqSApTAqHAqTArHApUqUpVAqOCALIC LyLxRyRpYAiOMiSANDHI MARKjECTION MARK-1v2",
  "SHARADA SEPARATORjIGN ANUSVARAoVAGRAHAnCANDRABINDUnINVERTED CANDRABINDUnJIHVAMULIYAnNUKTA",
  "SHARADA SIGN SIDDHAMnUPADHMANIYAnVIRAMApSARGAjUTRA MARKiVOWEL MODIFIER MARKoSIGN AAuIuUtEtIuItO",
  "SHARADA VOWEL SIGN PRISHTHAMATRA EtUuUtVOCALIC LzdLzcRzdReKdVED ICEeIAN LETTER ADOqGEqHqIRqRE",
  "SHAVIAN LETTER ARRAYqSHqWEpBIBpCHURCHpDEADpEARrTqGGqRRpFEEpGAGpHA-HAqUNGpIANqCEqFpJUDGEpKICK",
  "SHAVIAN LETTER LOLLpMEASUREqIMEpNUNpOAKqILqNqOZEqRqUTpPEEPpROARpSOqUREpTHEYrIGHqOTpUPpVOWpWOE",
  "SHAVIAN LETTER WOOLpYEArWpZOOcEEPcIELDdFT INgOUTdNTO SHRINEdPcOCKED FACE WITH EXPLODING HEAD",
  "SHOOTING STARdPPING BAGSjTROLLEYdRT BACKSLANTED SOUTH ARROW",
  "SHORT BENT ARROW POINTING DOWNWARDS THEN NORTH EASTgDOWN TACKp WITH OVERBARgLEFT TACK",
  "SHORT RIGHTWARDS ARROW ABOVE LEFTWARDS ARROWgSLANTED NORTH ARROWgUP TACKn ABOVE SHORT DOWN TACK",
  "SHORT UP TACK WITH UNDERBARfCAKEfHAND FORMAT CONTINUING OVERLAPrDOWN STEPrLETTER OVERLAP",
  "SHORTHAND FORMAT UP STEPfSdULDERED OPEN BOXdWERcRIMPdUGcUFFLE PRODUCTcYbIcDDHAM DANDA",
  "SIDDHAM DOUBLE DANDAiEND OF TEXT MARKiLETTER AqAqIqLTERNATE UqUpBAqHApCAqHApDAqDArHAqHApEpGAqHA",
  "SIDDHAM LETTER HApIqIpJAqHApKAqHApLApMApNAqGAqNAqYApOpPAqHApRApSAqHAqSApTAqHA",
  "SIDDHAM LETTER THREE-CIRCLE ALTERNATE IqTArHAqWO-CIRCLE ALTERNATE IzmIpUqUpVAqOCALIC LyLxRyRpYA",
  "SIDDHAM REPETITION MARK-1y2y3iSECTION MARK DOUBLE RINGzh WITH RAYS",
  "SIDDHAM SECTION MARK WITH CIRCLES AND FOUR ENCLOSURESznRAYSznTWO ENCLOSURESzbDOUBLE CRESCENTS",
  "SIDDHAM SECTION MARK WITH QUADRUPLE CRESCENTSzbRAYS AND DOTTED CRESCENTSzrDOUBLE CRESCENTS",
  "SIDDHAM SECTION MARK WITH RAYS AND DOTTED TRIPLE CRESCENTSzbSEPTUPLE CRESCENTS",
  "SIDDHAM SECTION MARK WITH TRIDENT AND DOTTED CRESCENTSznU-SHAPED ORNAMENTSzePLE CRESCENTS",
  "SIDDHAM SEPARATOR BARsDOTjIGN ANUSVARAnCANDRABINDUnNUKTAnSIDDHAMnVIRAMApSARGAiVOWEL SIGN AAuI",
  "SIDDHAM VOWEL SIGN ALTERNATE UzfUuUtEtIuItOtUuUtVOCALIC RzdRdEWAYS BLACK DOWN POINTING INDEX",
  "SIDEWAYS BLACK LEFT POINTING INDEXpRIGHT POINTING INDEXpUP POINTING INDEX",
  "SIDEWAYS WHITE DOWN POINTING INDEXpLEFT POINTING INDEXpRIGHT POINTING INDEXpUP POINTING INDEX",
  "SIGN OF THE HORNSeWRITING AIR BLOW SMALL ROTATIONSuING OUTqSUCK SMALL ROTATIONSuING IN",
  "SIGNWRITING BREATH EXHALEtINHALEoUSH BETWEENsMULTIPLEsSINGLEmCHEEKS NEUTRALtPUFFEDtSUCKEDnOLON",
  "SIGNWRITING COMMAmDREAMY EYEBROWS DOWN NEUTRALzdNEUTRAL DOWNzlUPzdUP NEUTRAL",
  "SIGNWRITING DYNAMIC ARROWHEAD LARGEzfSMALLuEVERY OTHER TIMEuFASTuGRADUALuRELAXEDuSIMULTANEOUS",
  "SIGNWRITING DYNAMIC SIMULTANEOUS ALTERNATINGvLOWuTENSEmEARSnXCITEMENTnYE BLINK MULTIPLEwSINGLE",
  "SIGNWRITING EYE WINKpBROWS STRAIGHT DOWNzfNEUTRALzfUPpGAZE-FLOORPLANE CURVEDzgSTRAIGHT",
  "SIGNWRITING EYEGAZE-FLOORPLANE STRAIGHT ALTERNATINGzpDOUBLEuWALLPLANE CIRCLINGzgURVEDzfSTRAIGHT",
  "SIGNWRITING EYEGAZE-WALLPLANE STRAIGHT ALTERNATINGzoDOUBLEpLASHES DOWNwFLUTTERINGwUPpS CLOSED",
  "SIGNWRITING EYES HALF CLOSEDwOPENrOPENrSQUEEZEDrWIDE OPENvNING MOVEMENT",
  "SIGNWRITING FACE DIRECTION POSITION NOSE FORWARD TILTINGzqUP OR DOWNzzb TILTINGnILL MODIFIER-2",
  "SIGNWRITING FILL MODIFIER-3zb4zb5zb6oNGERnLICK LARGE MULTIPLEySINGLEsSEQUENTIALtMALL MULTIPLE",
  "SIGNWRITING FLICK SMALL SINGLEoOORPLANE SHOULDER HIP MOVEnOREHEAD CONTACTvNEUTRALvWRINKLED",
  "SIGNWRITING FULL STOPmGRASP BETWEENsMULTIPLEsSINGLEmHAIRoND-ANGLEw INDEXzd MIDDLE LITTLEzlRING",
  "SIGNWRITING HAND-ANGLE INDEX RING LITTLEzp OUTzeTHUMBzj INzkOUTxLITTLE INDEX",
  "SIGNWRITING HAND-ANGLE LITTLE INDEX THUMB INDEX THUMBzzd OUTzfUPxMIDDLE RING LITTLEzq INzrOUT",
  "SIGNWRITING HAND-ANGLE RING DOWN MIDDLE THUMB INDEX CROSSzdLITTLErCIRCLEx INDEXze BENTzfHINGE",
  "SIGNWRITING HAND-CIRCLE INDEX MIDDLEzl CROSS LITTLEzrEDzmLITTLEzmRINGzmTHUMBzfRING LITTLE",
  "SIGNWRITING HAND-CIRCLE LITTLE INDEXzgUPyMIDDLE RING LITTLEzr BENTzgUPyRING LITTLEsLAW",
  "SIGNWRITING HAND-CLAW FOUR FINGERS CONJOINEDwINDEX THUMB CURVE THUMB INSIDE",
  "SIGNWRITING HAND-CLAW MIDDLE RING LITTLE CONJOINEDzz SIDEwNO THUMBwTHUMB FORWARDzdSIDEsUP",
  "SIGNWRITING HAND-CUP FIVE FINGERS SPREADzp OPENvINDEXzb RING LITTLEzcTHUMBzh OPEN",
  "SIGNWRITING HAND-CUP MIDDLE RING LITTLEvNO THUMBvOPENz NO THUMBzbTHUMB FORWARDzhSIDE",
  "SIGNWRITING HAND-CUP THUMB FORWARDzcSIDEtRLICUEz INDEX RING LITTLE ONzbMIDDLE RING LITTLE ON",
  "SIGNWRITING HAND-CURLICUE OPENrFISTv FOUR FINGERS CONJOINED BENTwHEELwINDEXzc BENT",
  "SIGNWRITING HAND-FIST INDEX BENT OVER MIDDLEzdCUPPEDzdHINGEDzj LOWzkMIDDLE UPzt THUMB SIDE",
  "SIGNWRITING HAND-FIST INDEX MIDDLEzj BENTzo THUMB STRAIGHTzkCONJOINEDzt CUPPEDzzb THUMB FORWARD",
  "SIGNWRITING HAND-FIST INDEX MIDDLE CONJOINED HINGEDzzb THUMB SIDEzuINDEX BENTzuMIDDLE BENT",
  "SIGNWRITING HAND-FIST INDEX MIDDLE CONJOINED THUMB FORWARDzzbSIDEzzf BENTzzgCONJOINED",
  "SIGNWRITING HAND-FIST INDEX MIDDLE CROSS LITTLEzpEDzr THUMB SIDEzkHINGEDzq SPREAD THUMB SIDE",
  "SIGNWRITING HAND-FIST INDEX MIDDLE LITTLEzkRAISED KNUCKLESzlINGzo BENTzpCONJOINED",
  "SIGNWRITING HAND-FIST INDEX MIDDLE STRAIGHT THUMB BENTzkTHUMBzp ANGLEDzw OUTzqBENTzqCIRCLED",
  "SIGNWRITING HAND-FIST INDEX MIDDLE THUMB CONJOINED HINGEDzrUPPEDzqHINGEDzrOOKED",
  "SIGNWRITING HAND-FIST INDEX MIDDLE UP SPREAD THUMB FORWARDzdRAISED KNUCKLEzeING LITTLE",
  "SIGNWRITING HAND-FIST INDEX THUMB ANGLED IN MIDDLE UPzqOUT MIDDLE UPzjCIRCLEzpD MIDDLE UP",
  "SIGNWRITING HAND-FIST INDEX THUMB CUPPED MIDDLE UPzlRLICUEzmVE THUMB INSIDEzvUNDER",
  "SIGNWRITING HAND-FIST INDEX THUMB FORWARD INDEX BENTzxSTRAIGHTzjHOOKznED MIDDLE HINGEDzxUP",
  "SIGNWRITING HAND-FIST INDEX THUMB SIDEzn BOTH BENTzoINDEX BENTzuHINGEzoTHUMB BENTzuCONJOINED",
  "SIGNWRITING HAND-FIST INDEX THUMB SIDE THUMB DIAGONALzdUP MIDDLE HINGEDzt THUMB CONJOINED",
  "SIGNWRITING HAND-FIST INDEX UP MIDDLE HINGED THUMB SIDEwLITTLE BENTzeDOWNzi OTHERS CIRCLED",
  "SIGNWRITING HAND-FIST LITTLE DOWN RIPPLE CURVEDzqSTRAIGHTzeINDEXzj THUMBzeRAISED KNUCKLEzeTHUMB",
  "SIGNWRITING HAND-FIST LITTLE TOUCHES THUMBzeUPwMIDDLE BENT OVER INDEXzeDOWNzeLITTLE",
  "SIGNWRITING HAND-FIST MIDDLE RAISED KNUCKLEzfING LITTLEzeTHUMB ANGLED INDEX UP",
  "SIGNWRITING HAND-FIST MIDDLE THUMB ANGLED OUT INDEX CROSSEDzzcUPzkCIRCLED INDEX HINGEDzyUP",
  "SIGNWRITING HAND-FIST MIDDLE THUMB CUPPED INDEX UPzkHOOKED INDEX UPzkLITTLEzeUPzg THUMB SIDE",
  "SIGNWRITING HAND-FIST RING DOWNzcINDEXzcLITTLEzcMIDDLEzi CONJOINEDzjRAISED KNUCKLES",
  "SIGNWRITING HAND-FIST RING RAISED KNUCKLEzcTHUMBzcUPwTHUMBzc BETWEEN INDEX MIDDLEzx STRAIGHT",
  "SIGNWRITING HAND-FIST THUMB BETWEEN MIDDLE RINGzlRING LITTLEzdFORWARDzdHEEL",
  "SIGNWRITING HAND-FIST THUMB OVER FOUR RAISED KNUCKLESziTWO FINGERSzdSIDE BENTziCONJOINED",
  "SIGNWRITING HAND-FIST THUMB SIDE DIAGONALzdUNDER FOUR FINGERSzjINDEX BENTzjLITTLE UP",
  "SIGNWRITING HAND-FIST THUMB UNDER THREE FINGERSzkWO FINGERSsLATv BETWEEN PALM FACINGS",
  "SIGNWRITING HAND-FLAT FIVE FINGERS SPREADzq BENTzrFOUR BENTzrHINGEDzx NO THUMBzyTHUMB SIDE",
  "SIGNWRITING HAND-FLAT FIVE FINGERS SPREAD THUMB FORWARDxOUR FINGERSzj BENTzkCONJOINEDzt SPLIT",
  "SIGNWRITING HAND-FLAT FOUR FINGERS HINGEDwHEELzb FIVE FINGERS SPREADzv BENTzwFOUR BENT",
  "SIGNWRITING HAND-FLAT HEEL THUMB SIDEwSPLIT CENTREzj THUMB SIDEzu BENTzdINDEX THUMB SIDE",
  "SIGNWRITING HAND-FLAT SPLIT LITTLEwTHUMB BENTzdFORWARDzdSIDErHINGEw FIVE FINGERS SPREAD OPEN",
  "SIGNWRITING HAND-HINGE FOUR FINGERS CONJOINEDxINDEXzd HINGEDzeMIDDLE LITTLEzlRINGzp CONJOINED",
  "SIGNWRITING HAND-HINGE INDEX RING LITTLEzeTHUMBzj LARGEzkOPENzkSIDEzlMALLxLITTLEze INDEX",
  "SIGNWRITING HAND-HINGE LITTLE INDEX THUMBzfTHUMBxMIDDLEze RING LITTLExNO THUMBxOPENzc NO THUMB",
  "SIGNWRITING HAND-HINGE OPEN THUMB FORWARDzjSIDExRINGzc DOWN INDEX THUMB HOOK MIDDLExSMALL",
  "SIGNWRITING HAND-HINGE THUMB BETWEEN MIDDLE RINGzeSIDEzi TOUCHING INDEXsOOKv CURLICUE",
  "SIGNWRITING HAND-HOOK INDEX RING LITTLE INzpOUTzpUNDERwMIDDLE RING LITTLE CONJOINEDzz INzzbOUT",
  "SIGNWRITING HAND-HOOK MIDDLE THUMBwRING THUMBrOVALv FIVE FINGERS SPREADwINDEXwLITTLE UP",
  "SIGNWRITING HAND-OVAL NO THUMBwRING LITTLEwTHUMB FORWARDzdSIDEnEADq MOVEMENT CIRCLE",
  "SIGNWRITING HEAD MOVEMENT-FLOORPLANE CURVEzmSTRAIGHTzbWALLPLANE CURVEzlSTRAIGHTzlTILTrRIM",
  "SIGNWRITING LIMB COMBINATIONrLENGTH-1y2y3y4y5y6y7oP LOWER OVER UPPERqUPPER OVER LOWER",
  "SIGNWRITING LIPS PRESSED TOGETHERnOCATION DEPTHvHEAD NECKxIGHTvLIMBS DIGITSvTORSOvWIDTH",
  "SIGNWRITING LOCATION-FLOORPLANE SPACEvWALLPLANE SPACEmMOUTH CLOSED CONTACTzFORWARDzNEUTRAL",
  "SIGNWRITING MOUTH CORNERSsFROWNx OPENyWRINKLEDsKISSw FORWARDxWRINKLEDsOPEN CIRCLExFORWARDxOVAL",
  "SIGNWRITING MOUTH OPEN OVAL WRINKLEDzdYAWNxRECTANGLEzh WRINKLEDziYAWNxWRINKLEDsSMILEx OPEN",
  "SIGNWRITING MOUTH SMILE WRINKLEDsTENSEx FORWARDySUCKEDsWRINKLES DOUBLEzcSINGLE",
  "SIGNWRITING MOVEMENT-DIAGONAL AWAY LARGEzpSTzkMEDIUMzkSMALLzfBETWEEN AWAY LARGEzxSTzsMEDIUM",
  "SIGNWRITING MOVEMENT-DIAGONAL BETWEEN AWAY SMALLznTOWARDS LARGEzzbSTzvMEDIUMzvSMALL",
  "SIGNWRITING MOVEMENT-DIAGONAL TOWARDS LARGEzsSTznMEDIUMznSMALL",
  "SIGNWRITING MOVEMENT-FLOORPLANE ARM CIRCLE HITTING WALL LARGE DOUBLEzzmSINGLEzzgMEDIUM DOUBLE",
  "SIGNWRITING MOVEMENT-FLOORPLANE ARM CIRCLE HITTING WALL MEDIUM SINGLEzzgSMALL DOUBLEzzmSINGLE",
  "SIGNWRITING MOVEMENT-FLOORPLANE BENDziOX LARGEzlMEDIUMzlSMALLzhCHECKziORNER LARGEzoMEDIUM",
  "SIGNWRITING MOVEMENT-FLOORPLANE CORNER SMALLziROSSziURVE COMBINEDznHITTING CEILING LARGE",
  "SIGNWRITING MOVEMENT-FLOORPLANE CURVE HITTING CEILING SMALLzvFLOOR LARGEzzcSMALLznLARGEzsST",
  "SIGNWRITING MOVEMENT-FLOORPLANE CURVE MEDIUMznSMALLzhDOUBLE ALTERNATINGzz WRIST FLEXzoSTRAIGHT",
  "SIGNWRITING MOVEMENT-FLOORPLANE DOUBLE WRIST FLEXzhFINGER CIRCLES HITTING WALL DOUBLEzzkSINGLE",
  "SIGNWRITING MOVEMENT-FLOORPLANE FINGER CONTACTzhHUMP HITTING CEILING LARGE DOUBLEzzjTRIPLE",
  "SIGNWRITING MOVEMENT-FLOORPLANE HUMP HITTING CEILING SMALL DOUBLEzzjTRIPLEzuFLOOR LARGE DOUBLE",
  "SIGNWRITING MOVEMENT-FLOORPLANE HUMP HITTING FLOOR SMALL DOUBLEzzbTRIPLE LARGE TRIPLE",
  "SIGNWRITING MOVEMENT-FLOORPLANE HUMP HITTING FLOOR TRIPLE SMALL TRIPLEzmSMALLzhJAW",
  "SIGNWRITING MOVEMENT-FLOORPLANE LOOP HITTING CEILING LARGE DOUBLEzzjSINGLEzzdSMALL DOUBLE",
  "SIGNWRITING MOVEMENT-FLOORPLANE LOOP HITTING CEILING SMALL SINGLEzuFLOOR LARGE DOUBLEzzhSINGLE",
  "SIGNWRITING MOVEMENT-FLOORPLANE LOOP HITTING FLOOR SMALL DOUBLEzzhSINGLEzmSMALLzhPEAKS LARGE",
  "SIGNWRITING MOVEMENT-FLOORPLANE PEAKS MEDIUMznSMALLzhSHAKING PARALLELziINGLE STRAIGHT LARGE",
  "SIGNWRITING MOVEMENT-FLOORPLANE SINGLE STRAIGHT LARGESTzxMEDIUMzxSMALLzoWRIST FLEX",
  "SIGNWRITING MOVEMENT-FLOORPLANE TRIPLE ALTERNATING MOVEMENTzzbWRIST FLEXzoSTRAIGHT MOVEMENT",
  "SIGNWRITING MOVEMENT-FLOORPLANE TRIPLE WRIST FLEXzhWAVE HITTING CEILING LARGEzzdSMALL",
  "SIGNWRITING MOVEMENT-FLOORPLANE WAVE HITTING FLOOR LARGEzzbSMALLzmLARGEzmSMALLznNAKE",
  "SIGNWRITING MOVEMENT-FLOORPLANE WRIST CIRCLE HITTING WALL DOUBLEzziSINGLEzhZIGZAG LARGEzoMEDIUM",
  "SIGNWRITING MOVEMENT-FLOORPLANE ZIGZAG SMALLvHINGE DOWN SEQUENTIALzcSIDE TO SIDE SCISSORS",
  "SIGNWRITING MOVEMENT-HINGE UP DOWN ALTERNATING LARGEzwSMALLzkLARGEzkSMALLzfSEQUENTIAL",
  "SIGNWRITING MOVEMENT-WALLPLANE ARM CIRCLE MEDIUM DOUBLEzySINGLEzrSMALL DOUBLEzxSINGLE",
  "SIGNWRITING MOVEMENT-WALLPLANE BEND LARGEzlMEDIUMzlSMALLzhOX LARGEzkMEDIUMzkSMALLzgCHECK LARGE",
  "SIGNWRITING MOVEMENT-WALLPLANE CHECK MEDIUMzmSMALLzhORNER LARGEznMEDIUMznROTATIONznSMALLzhROSS",
  "SIGNWRITING MOVEMENT-WALLPLANE CURVE HALF-CIRCLE LARGEzzeSTzyMEDIUMzySMALLznITTING CHEST",
  "SIGNWRITING MOVEMENT-WALLPLANE CURVE HITTING FRONT WALLzmQUARTER LARGEzzSTzuMEDIUMzuSMALL",
  "SIGNWRITING MOVEMENT-WALLPLANE CURVE THEN STRAIGHTzoREE-QUARTER CIRCLE MEDIUMzziSMALL",
  "SIGNWRITING MOVEMENT-WALLPLANE CURVED CROSS MEDIUMztSMALLzgDOUBLE ALTERNATINGzy WRIST FLEX",
  "SIGNWRITING MOVEMENT-WALLPLANE DOUBLE STRAIGHTznWRIST FLEXzgFINGER CIRCLES DOUBLEzvSINGLE",
  "SIGNWRITING MOVEMENT-WALLPLANE FINGER CONTACTzgHUMP HITTING CHESTztFRONT WALLzlLARGEzlMEDIUM",
  "SIGNWRITING MOVEMENT-WALLPLANE HUMP SMALLzgJAWzgLOOP HITTING CHESTztFRONT WALLzlLARGEzlMEDIUM",
  "SIGNWRITING MOVEMENT-WALLPLANE LOOP SMALLzq DOUBLEzgPEAKS LARGEzmMEDIUMzmSMALLzgSHAKING",
  "SIGNWRITING MOVEMENT-WALLPLANE SINGLE STRAIGHT LARGEzzcSTzwMEDIUMzwSMALLznWRIST FLEX",
  "SIGNWRITING MOVEMENT-WALLPLANE TRIPLE ALTERNATINGzy WRIST FLEXznSTRAIGHT MOVEMENTznWRIST FLEX",
  "SIGNWRITING MOVEMENT-WALLPLANE WAVE CURVE DOUBLE LARGEzyMEDIUMzySMALLzrTRIPLE LARGEzyMEDIUM",
  "SIGNWRITING MOVEMENT-WALLPLANE WAVE CURVE TRIPLE SMALLzlDIAGONAL PATH LARGEzzMEDIUMzzSMALL",
  "SIGNWRITING MOVEMENT-WALLPLANE WAVE HITTING CHESTztFRONT WALLzhRIST CIRCLE FRONT DOUBLEzzSINGLE",
  "SIGNWRITING MOVEMENT-WALLPLANE ZIGZAG LARGEznMEDIUMznSMALLmNECKnOSE CONTACTrNEUTRALrWIGGLES",
  "SIGNWRITING NOSE WRINKLESmPARENTHESISmROTATION MODIFIER-10zg1zg2zg3zg4zg5zg6zf2zf3zf4zf5zf6zf7",
  "SIGNWRITING ROTATION MODIFIER-8zf9u-FLOORPLANE ALTERNATINGzs HITTING CEILINGzzcFLOORzhDOUBLE",
  "SIGNWRITING ROTATION-FLOORPLANE DOUBLE HITTING CEILINGzwFLOORzhSINGLEzn HITTING CEILINGzwFLOOR",
  "SIGNWRITING ROTATION-WALLPLANE ALTERNATEzoING HITTING CHESTzzbFRONT WALLzgDOUBLE",
  "SIGNWRITING ROTATION-WALLPLANE DOUBLE HITTING CHESTzvFRONT WALLzgSINGLEzm HITTING CHEST",
  "SIGNWRITING ROTATION-WALLPLANE SINGLE HITTING FRONT WALLnUB BETWEENqMULTIPLEqSINGLEmSEMICOLON",
  "SIGNWRITING SHOULDER HIP POSITIONSzSPINEvTILTING FROM WAISTnQUEEZE FLICK ALTERNATING",
  "SIGNWRITING SQUEEZE LARGE MULTIPLEzbSINGLEuSEQUENTIALvMALL MULTIPLEzbSINGLEnTRIKE BETWEEN",
  "SIGNWRITING STRIKE MULTIPLEtSINGLEnURFACE BETWEENuSYMBOLSmTEETHr BITE LIPSsMOVEMENTsON LIPS",
  "SIGNWRITING TEETH ON LIPS MOVEMENTvTONGUEzc MOVEMENToNSE CHEEKS HIGHzLOWzMIDDLE",
  "SIGNWRITING TONGUE CENTRE INSIDE MOUTHzbSTICKING OUTtINSIDE MOUTH RELAXEDtLICKING LIPS",
  "SIGNWRITING TONGUE MOVES AGAINST CHEEKtSTICKING OUT FARtTIP BETWEEN LIPSxTOUCHING INSIDE MOUTH",
  "SIGNWRITING TORSO-FLOORPLANE TWISTINGsWALLPLANE CURVED BENDzdSTRAIGHT STRETCHoUCH BETWEEN",
  "SIGNWRITING TOUCH MULTIPLEsSINGLEnRAVEL-FLOORPLANE ROTATION-FLOORPLANE ALTERNATINGzzDOUBLE",
  "SIGNWRITING TRAVEL-FLOORPLANE ROTATION-FLOORPLANE SINGLEzoWALLPLANE ALTERNATINGzyDOUBLEzySINGLE",
  "SIGNWRITING TRAVEL-FLOORPLANE SHAKINGtWALLPLANE ARM SPIRAL DOUBLEzpSINGLEzpTRIPLE",
  "SIGNWRITING TRAVEL-WALLPLANE ROTATION-FLOORPLANE ALTERNATINGzyDOUBLEzySINGLE",
  "SIGNWRITING TRAVEL-WALLPLANE ROTATION-WALLPLANE ALTERNATINGzxDOUBLEzxSINGLEzeSHAKING",
  "SIGNWRITING UPPER BODY TILTING FROM HIP JOINTSmWALLPLANE SHOULDER HIP MOVEcLHOUETTE OF JAPAN",
  "SIMILAR ABOVE GREATER-THAN ABOVE EQUALS SIGNoLESS-THAN ABOVE EQUALS SIGNiMINUS SIMILAR",
  "SIMILAR OR GREATER-THANlLESS-THANcNE WAVEdGLE CHARACTER INTRODUCERhGRAPHIC CHARACTER INTRODUCER",
  "SINGLE HIGH-REVERSED-9 QUOTATION MARKhLEFT-POINTING ANGLE QUOTATION MARKiOW-9 QUOTATION MARK",
  "SINGLE RIGHT-POINTING ANGLE QUOTATION MARKhSHIFT THREEoWOg-SHIFT-2n3dHALA ARCHAIC DIGIT EIGHT",
  "SINHALA ARCHAIC DIGIT FIVExOURwNINEwONEwSEVENxIXwTHREExWOqNUMBER EIGHTYxFIFTYyORTYxNINETY",
  "SINHALA ARCHAIC NUMBER ONE HUNDREDzcTHOUSANDxSEVENTYyIXTYxTENyHIRTYyWENTYiLETTER AAYANNA",
  "SINHALA LETTER AEEYANNArYANNAqIYANNAqLPAPRAANA BAYANNAzbCAYANNAzbDAYANNAzcDAYANNAzbGAYANNA",
  "SINHALA LETTER ALPAPRAANA JAYANNAzbKAYANNAzbPAYANNAzbTAYANNAzcTAYANNAqMBA BAYANNAqUYANNAqYANNA",
  "SINHALA LETTER DANTAJA LAYANNAxNAYANNAxSAYANNApEEYANNAqYANNApFAYANNApHAYANNApIIYANNAqLUUYANNA",
  "SINHALA LETTER ILUYANNAqRUUYANNAsYANNAqYANNApKANTAJA NAASIKYAYApMAHAAPRAANA BAYANNAzcCAYANNA",
  "SINHALA LETTER MAHAAPRAANA DAYANNAzdDAYANNAzcGAYANNAzcJAYANNAzcKAYANNAzcPAYANNAzcTAYANNA",
  "SINHALA LETTER MAHAAPRAANA TTAYANNArYANNAqUURDHAJA LAYANNAzNAYANNAzSAYANNApOOYANNAqYANNA",
  "SINHALA LETTER RAYANNApSANYAKA DAYANNAyDAYANNAxGAYANNAxJAYANNApTAALUJA NAASIKYAYA",
  "SINHALA LETTER TAALUJA SANYOOGA NAAKSIKYAYAzYANNApUUYANNAqYANNApVAYANNApYAYANNAjITH DIGIT EIGHT",
  "SINHALA LITH DIGIT FIVEuOURtNINEtONEtSEVENuIXtTHREEuWOtZEROiPUNCTUATION KUNDDALIYA",
  "SINHALA SIGN AL-LAKUNAoNUSVARAYAnCANDRABINDUnVISARGAYAiVOWEL SIGN AELA-PILLAtDIGA AEDA-PILLA",
  "SINHALA VOWEL SIGN DIGA GAETTA-PILLAzbYANUKITTAyIS-PILLAyKOMBUVAyPAA-PILLAtGAETTA-PILLA",
  "SINHALA VOWEL SIGN GAYANUKITTAtKETTI AEDA-PILLAzIS-PILLAzPAA-PILLAuOMBU DEKAyVA",
  "SINHALA VOWEL SIGN KOMBUVA HAA AELA-PILLAzgDIGA AELA-PILLAzgGAYANUKITTA",
  "SIX PETALLED BLACK AND WHITE FLORETTEfOINTED BLACK STARmPINWHEEL STARmSTAR WITH MIDDLE DOT",
  "SIX-PER-EM SPACEdTEEN POINTED ASTERISKbKATEBOARDcI AND SKI BOOTdERcULLf AND CROSSBONESdNK",
  "SLANTED EQUAL TO OR GREATER-THANzh WITH DOT INSIDEuLESS-THANze WITH DOT INSIDE",
  "SLANTED NORTH ARROW WITH HOOKED HEADzcRIZONTAL TAILdVONIC ASTERISKcEDdEPING ACCOMMODATIONjFACE",
  "SLEEPING SYMBOLfY FACEdUTH OR SPYcICE OF PIZZAdGHTLY FROWNING FACEjSMILING FACEcOPE",
  "SLOPING LARGE ANDoORdT MACHINEeHbMALL AIRPLANEhMPERSANDhSTERISKgBLUE DIAMONDgCOLONiMMA",
  "SMALL COMMERCIAL ATiNTAINS AS MEMBERpWITH OVERBARuVERTICAL BAR AT END OF HORIZONTAL STROKE",
  "SMALL DOLLAR SIGNgELEMENT OFq WITH OVERBARwVERTICAL BAR AT END OF HORIZONTAL STROKEhM DASH",
  "SMALL EQUALS SIGNhXCLAMATION MARKgFULL STOPgGREATER-THAN SIGNgHYPHEN-MINUSgIDEOGRAPHIC COMMA",
  "SMALL LEFT CURLY BRACKETlPARENTHESISlTORTOISE SHELL BRACKETiSS-THAN SIGNgNUMBER SIGN",
  "SMALL ORANGE DIAMONDgPERCENT SIGNhLUS SIGNgQUESTION MARKgREVERSE SOLIDUShIGHT CURLY BRACKET",
  "SMALL RIGHT PARENTHESISmTORTOISE SHELL BRACKEThOMAN NUMERAL EIGHTvLEVENuFIFTYwVEy HUNDREDvOUR",
  "SMALL ROMAN NUMERAL NINEuONEx HUNDREDyTHOUSANDuSEVENvIXuTENvHREEvWELVEwOgSEMICOLONgTILDE",
  "SMALL TWO DOTS OVER ONE DOT PUNCTUATIONgVEE WITH UNDERBARfER THANm OR EQUAL TOdSH PRODUCTcILE",
  "SMILING CAT FACE WITH HEART-SHAPED EYESwOPEN MOUTHiFACE WITH HALOtEART-SHAPED EYEStORNS",
  "SMILING FACE WITH OPEN MOUTHzd AND COLD SWEATziSMILING EYESziTIGHTLY-CLOSED EYESsSMILING EYES",
  "SMILING FACE WITH SMILING EYES AND HAND COVERING MOUTHzkTHREE HEARTStUNGLASSESsTEARdRKING FACE",
  "SMOKING SYMBOLbNAILdKEcEEZING FACEcOW CAPPED MOUNTAINeBOARDEReFLAKEeMANh WITHOUT SNOWbO",
  "SOCCER BALLdKScFT HYPHENfICE CREAMfSHELL FLOPPY DISKeBALLeWARE-FUNCTION SYMBOL",
  "SOGDIAN COMBINING CURVE ABOVEyBELOWsDOT ABOVEwBELOWsHOOK ABOVExBELOWsLONG HOOK BELOWsRESH BELOW",
  "SOGDIAN COMBINING STROKE BELOWsTWO DOTS ABOVEzcBELOWiINDEPENDENT SHINiLETTER ALEPHqYINpBETH",
  "SOGDIAN LETTER FETHpGIMELpHErTHpKAPHpLAMEDHqESHpMEMpNUNpPEpRESH-AYINpSADHErMEKHqHINpTAWpWAW",
  "SOGDIAN LETTER YODHpZAYINiNUMBER ONEs HUNDREDpTENqWENTYiPUNCTUATION CIRCLE WITH DOT",
  "SOGDIAN PUNCTUATION HALF CIRCLE WITH DOTuTWO CIRCLES WITH DOTSyVERTICAL BARSzm WITH DOTScH",
  "SOLID QUILT SQUARE ORNAMENTzc IN BLACK SQUAREfUSh WITH OVERBARcM SIGN",
  "SOON WITH RIGHTWARDS ARROW ABOVEcRA SOMPENG DIGIT EIGHTtFIVEuOURtNINEtONEtSEVENuIXtTHREEuWO",
  "SORA SOMPENG DIGIT ZEROnLETTER AHuBAHuCAHuDAHuEEHvHuGAHuHAHuIHuJAHuKAHuLAHuMAEwHuNAHvGAHvYAHuOH",
  "SORA SOMPENG LETTER PAHuRAHuSAHuTAHuUHuVAHuYAHcScUND RECORDING COPYRIGHTdTH EAST ARROW",
  "SOUTH EAST ARROW AND SOUTH WEST ARROWrCROSSING NORTH EAST ARROWrTO CORNERrWITH HOOKlBLACK ARROW",
  "SOUTH EAST DOUBLE ARROWlPOINTING BUDuLEAFuVINE LEAFlSANS-SERIF ARROWlTRIANGLE-HEADED ARROW",
  "SOUTH EAST TRIANGLE-HEADED ARROW TO BARlWHITE ARROWgWEST ARROWq AND NORTH WEST ARROWrWITH HOOK",
  "SOUTH WEST BLACK ARROWlDOUBLE ARROWlPOINTING BUDuLEAFuVINE LEAFlSANS-SERIF ARROW",
  "SOUTH WEST TRIANGLE-HEADED ARROWzh TO BARlWHITE ARROWcYOMBO CLUSTER-INITIAL LETTER LAzgRAzgSA",
  "SOYOMBO CLUSTER-INITIAL LETTER SHAiFINAL CONSONANT SIGN -AzeBzeDzeGzeKzeLzeMzeNzfGzeRzeSzfH",
  "SOYOMBO GEMINATION MARKiHEAD MARK WITH MOON AND SUNzk AND FLAMEzpTRIPLE FLAMEiLETTER -ApApBAqHA",
  "SOYOMBO LETTER CAqHApDAqDArHAqHAqZApGAqHApHApJAqHApKAqHAqSSApLApMApNAqGAqNAqYApPAqHApRApSAqHA",
  "SOYOMBO LETTER SSApTAqHAqSArHAqTArHApVApYApZAqHAiMARK DOUBLE SHADnPLUTAnSHADnTSHEG",
  "SOYOMBO SIGN ANUSVARAnJIHVAMULIYAnUPADHMANIYAnVISARGAjUBJOINERiTERMINAL MARK-1w2",
  "SOYOMBO VOWEL LENGTH MARKoSIGN AIuUtEtItOuEtUuEtVOCALIC LzcRbPcAdCEdGHETTIdRKLEhSgING HEART",
  "SPEAK-NO-EVIL MONKEYfERh WITH CANCELLATION STROKEnONE SOUND WAVEnTHREE SOUND WAVES",
  "SPEAKING HEAD IN SILHOUETTEdECH BALLOONeDBOATdSMILO SIGNcHERICAL ANGLEp OPENING LEFTyUPcIDER",
  "SPIDER WEBdRAL CALENDAR PADhNOTE PADhSHELLcLASHING SWEAT SYMBOLcONGEdOL OF THREADeNdRTS MEDAL",
  "SPOUTING WHALEbQUARE A OVER MiARUiMiNPEAiPAATOiRUHUAiUhBAARERUjRiEETAiIRUiORUTOiQiUSSYERU",
  "SQUARE C OVER KGiALjPiCiDiMj CUBEDkSQUAREDiOjRPORATIONiUPhDAjASUiBiESIiJiLiMj CUBEDkSQUAREDiORU",
  "SQUARE EEKAAiRA NAME HEISEIqMEIZIqREIWAqSYOUWAqTAISYOUjGiSUKUUDOiVhFMiOOTjUR CORNERShGALjNMA",
  "SQUARE GARONiBiHZiIGAjNIIjRUDAAiPAiURAMUnTONiYhHAjITUiEKUTAARUjRUTUiGiIRAGANA HOKAiONjONkRUiPjA",
  "SQUARE HUARADDOjIITOjRANiZhIMAGE OFp OR EQUAL TOtNOT EQUAL TOiNjINGUjTIiUhK OHMiAjIRIjRATTO",
  "SQUARE KARORIIiBiCALiEESUiGiHZiIROlGURAMUlMEETORUlWATTOiKiLiMj CAPITALlUBEDkSQUAREDiOOPOjRUNA",
  "SQUARE KPAiTiUROONEkUZEIROiViWiYURIIhLEFT OPEN BOX OPERATORiMiNiOGjZENGEiXhM CUBEDjOHMkVER S",
  "SQUARE M OVER S SQUAREDjSQUAREDiAjHHAjIKUROkRUjNSYONjRUKUiBj SMALLiEETORUjGAlTONiGiHZiIKURONjL",
  "SQUARE MIRIlBAARUiLiMj CUBEDkSQUAREDiOLiPAiSiU AkFkGkLkMkSkVkWiVj MEGAiWj MEGAhNAjNOiFiMiOTTOiS",
  "SQUARE NViWhONSUiOMUiRIGINAL OFs OR EQUAL TOwNOT EQUAL TOiVhPAj AMPSjASENTOkTUiCiEEZIjNIHIkSU",
  "SQUARE PESOiFiHiIASUTORUjKOkURUiMiOINTOjNDOjSITION INDICATORiPMiRiSiViWhRADk OVER Sr SQUARED",
  "SQUARE REMUjNTOGENiIGHT OPEN BOX OPERATORjRAjTTORUiOOTiUPIIjUBURUhSAIKURUjNTIIMUiENTIlOiIRINGU",
  "SQUARE SRiVhTARGETiHZiONhUONhV OVER MhWATTOiBiITH BOTTOM HALF BLACKmCONTOURED OUTLINE",
  "SQUARE WITH DIAGONAL CROSSHATCH FILLmHORIZONTAL FILLmLEFT HALF BLACK",
  "SQUARE WITH LOWER LEFT DIAGONAL HALF BLACKsRIGHT DIAGONAL HALF BLACKmORTHOGONAL CROSSHATCH FILL",
  "SQUARE WITH RIGHT HALF BLACKmTOP HALF BLACKmUPPER LEFT DIAGONAL HALF BLACKxTO LOWER RIGHT FILL",
  "SQUARE WITH UPPER RIGHT DIAGONAL HALF BLACKyTO LOWER LEFT FILLmVERTICAL FILLhYAADOkRUiUAN",
  "SQUARED ASTERISKiCJK UNIFIED IDEOGRAPH-4E00zi9zh2Dzh8CzhA4zf518Dzg21Dzh4Dzh72zg3CCzhF3zg408zh39",
  "SQUARED CJK UNIFIED IDEOGRAPH-55B6zg8F0zg91Azh29zgB57zgDE6zgF8Czf624Bzh53zh95zg307zh55zg599zhB0",
  "SQUARED CJK UNIFIED IDEOGRAPH-6620zg708zi9zgE80zgF14zf7121zg51Fzh33zg981zgA7AzgD42zf89E3zgCA9",
  "SQUARED CJK UNIFIED IDEOGRAPH-8D70zf904Azg14DjLjOOLiDOT OPERATORiEIGHT KiFALLING DIAGONAL SLASH",
  "SQUARED FIVE POINT ONEjOUR DOT PUNCTUATIONnKjREEiHCjDRjI-RESjViIDiKATAKANA DErKOKOrSAjEY",
  "SQUARED LATIN CAPITAL LETTER AzeBzeCzeDzeEzeFzeGzeHzeIzeJzeKzeLzeMzeNzeOzePzeQzeRzeSzeTzeUzeV",
  "SQUARED LATIN CAPITAL LETTER WzeXzeYzeZoSMALL LETTER DjOGICAL ANDqORkSSLESSiMINUSjViNEWjGiOK",
  "SQUARED ONE HUNDRED TWENTY PiPLUSjPViRISING DIAGONAL SLASHiSALTIREjDjECOND SCREENkVEN POINT ONE",
  "SQUARED SHVjIXTY PjMALL CIRCLEjOSjQUAREjSiTHREE DjIMESjWENTY-TWO POINT TWOkO KiUHD",
  "SQUARED UP WITH EXCLAMATION MARKiVODjSiWCeT BLACK RIGHTWARDS ARROWdIDbS2c3cAbTcADIUM",
  "STAFF OF AESCULAPIUSjHERMESdMPED ENVELOPEdNDING PERSONdR AND CRESCENTfEQUALSfOF DAVIDgPERATOR",
  "STAR WITH LEFT HALF BLACKkRIGHT HALF BLACKeT OF GUARDED AREAjHEADINGjPROTECTED AREA",
  "START OF SELECTED AREAkTRINGjTEXTdTIONeUE OF LIBERTYcEAM LOCOMOTIVEfING BOWL",
  "STENOGRAPHIC FULL STOPdTHOSCOPEcICK FIGUREm LEANING LEFTvRIGHTnWITH ARMS RAISEDsDRESScOCK CHART",
  "STOPWATCHcRAIGHT RULERiNESSeWBERRYdESS OUTLINED WHITE STARdICTLY EQUIVALENT TOeNG TERMINATORcS",
  "STUDIO MICROPHONEdFFED FLATBREADdPAcXbUBdSCRIPT EIGHTlQUALS SIGNkFIVElOURkLEFT PARENTHESIS",
  "SUBSCRIPT MINUSkNINEkONEkPLUS SIGNkRIGHT PARENTHESISkSEVENlIXkTHREElWOkZERO",
  "SUBSET ABOVE RIGHTWARDS ARROWnSUBSETpPERSEThOFj ABOVE ALMOST EQUAL TOqEQUALS SIGNqNOT EQUAL TO",
  "SUBSET OF ABOVE TILDE OPERATORkOR EQUAL TOv WITH DOT ABOVEkWITH NOT EQUAL TOhWITH DOT",
  "SUBSET WITH MULTIPLICATION SIGN BELOWmPLUS SIGN BELOWeTITUTEcCCEEDSi ABOVE ALMOST EQUAL TO",
  "SUCCEEDS ABOVE EQUALS SIGNpNOT ALMOST EQUAL TOtEQUAL TOpSINGLE-LINE EQUALS SIGNzcNOT EQUAL TO",
  "SUCCEEDS BUT NOT EQUIVALENT TOjOR EQUAL TOpIVALENT TOjUNDER RELATIONcMMATION BOTTOMkTOP",
  "SUMMATION WITH INTEGRALcNd BEHIND CLOUDeWITH FACEdDANESE AVAGRAHAkCONSONANT SIGN PAMINGKAL",
  "SUNDANESE CONSONANT SIGN PANYAKRAzeIKUzcSANGAN MAzjWAkDIGIT EIGHTqFIVErOURqNINEqONEqSEVENrIX",
  "SUNDANESE DIGIT THREErWOqZEROkLETTER AsErBAsHArCArDArEsUrFAsINAL KxMrGArHArIrJArKAsHArLAsEUrMA",
  "SUNDANESE LETTER NAsGAsYArOrPArQArRAsEUrSAsYArTArUrVArWArXArYArZAkPUNCTUATION BINDU BA SATANGA",
  "SUNDANESE PUNCTUATION BINDU CAKRAzdDA SATANGAzdKA SATANGAzdLEU SATANGAzdPANGLONGzeURNAMAzdSURYA",
  "SUNDANESE SIGN PAMAAEHrNGLAYARtWISADsYECEKpVIRAMAkVOWEL SIGN PAMEPETxNAELAENGyEULEUNGyGHULU",
  "SUNDANESE VOWEL SIGN PANOLONGyYUKUdFLOWERdRISEh OVER MOUNTAINSdSET OVER BUILDINGScPERHERO",
  "SUPERSCRIPT EIGHTnQUALS SIGNmFIVEnOURmLATIN SMALL LETTER IzgNnEFT PARENTHESISmMINUSmNINEmONE",
  "SUPERSCRIPT PLUS SIGNmRIGHT PARENTHESISmSEVENnIXmTHREEnWOmZEROgET ABOVE LEFTWARDS ARROWpSUBSET",
  "SUPERSET ABOVE SUPERSETjBESIDE AND JOINED BY DASH WITH SUBSETqSUBSETjOFl ABOVE ALMOST EQUAL TO",
  "SUPERSET OF ABOVE EQUALS SIGNsNOT EQUAL TOsTILDE OPERATORmOR EQUAL TOx WITH DOT ABOVE",
  "SUPERSET OF WITH NOT EQUAL TOjPRECEDING SOLIDUSjWITH DOToMULTIPLICATION SIGN BELOW",
  "SUPERSET WITH PLUS SIGN BELOWfVILLAINcRFACE INTEGRALeERcSHIdPENSION RAILWAYbWAN",
  "SWASH AMPERSAND ORNAMENTcIMMERcUNG DASHbYLOTI NAGRI LETTER AuBHOvOuCHOvOuDDHOwOvHOvOuEuGHOvOuHO",
  "SYLOTI NAGRI LETTER IuJHOvOuKHOvOuLOuMOuNOuOuPHOvOuROvROuSOuTHOvOvTHOwOuUnPOETRY MARK-1z2z3z4",
  "SYLOTI NAGRI SIGN ALTERNATE HASANTAtNUSVARAsDVISVARAsHASANTAnVOWEL SIGN AyEyIyOOyU",
  "SYMBOL FOR ACKNOWLEDGElBACKSPACEmELLlCANCELnRRIAGE RETURNlDATA LINK ESCAPEmELETEr FORM TWO",
  "SYMBOL FOR DEVICE CONTROL FOURzbONEzbTHREEzcWOlEND OF MEDIUMsTEXTtRANSMISSIONzf BLOCKnQUIRY",
  "SYMBOL FOR ESCAPElFILE SEPARATORmORM FEEDlGROUP SEPARATORlHORIZONTAL TABULATIONlLINE FEED",
  "SYMBOL FOR MARKS CHAPTERlNEGATIVE ACKNOWLEDGEnWLINEmULLlRECORD SEPARATORlSAMARITAN SOURCE",
  "SYMBOL FOR SHIFT INrOUTmPACEmTART OF HEADINGuTEXTmUBSTITUTEv FORM TWOmYNCHRONOUS IDLE",
  "SYMBOL FOR TYPE A ELECTRONICSlUNIT SEPARATORlVERTICAL TABULATIONdMETRYcNdAGOGUEdCHRONOUS IDLE",
  "SYRIAC ABBREVIATION MARKhBARREKHhCOLON SKEWED LEFTuRIGHTjNTRACTIONhDOTTED ZLAMA ANGULAR",
  "SYRIAC DOTTED ZLAMA HORIZONTALhEND OF PARAGRAPHiSASA ABOVEnBELOWhFEMININE DOT",
  "SYRIAC HARKLEAN ASTERISCUSqMETOBELUSqOBELUSiBASA ABOVEnBELOWm-ESASA DOTTEDiORIZONTAL COLON",
  "SYRIAC LETTER ALAPHoBETHoDALATHpOTLESS DALATH RISHoEoFINAL SEMKATHoGAMALt GARSHUNIoHEqTHoKAPH",
  "SYRIAC LETTER LAMADHoMALAYALAM BHAyJAyLLAzbLAyNGAzNAzbNAzYAyRAySSAyTTApIMoNUNoPEqRSIAN BHETH",
  "SYRIAC LETTER PERSIAN DHALATHwGHAMALoQAPHoREVERSED PEpISHoSADHEpEMKATHpHINpOGDIAN FEwKHAPH",
  "SYRIAC LETTER SOGDIAN ZHAINpUPERSCRIPT ALAPHoTAWpETHs GARSHUNIoWAWoYUDHs HEoZAINhMUSIC",
  "SYRIAC OBLIQUE LINE ABOVEuBELOWhPTHAHA ABOVEoBELOWoDOTTEDhQUSHSHAYAhRBASA ABOVEnBELOWiUKKAKHA",
  "SYRIAC RWAHAhSUBLINEAR COLONw SKEWED LEFTzfRIGHTrFULL STOPjPRALINEAR COLONy SKEWED LEFT",
  "SYRIAC SUPRALINEAR FULL STOPhTHREE DOTS ABOVEsBELOWiWO VERTICAL DOTS ABOVEzBELOWhZQAPHA ABOVE",
  "SYRIAC ZQAPHA BELOWoDOTTEDeNGEaT-REXcSHIRTbABdLE TENNIS PADDLE AND BALLcCOcG AMPERSAND",
  "TAG APOSTROPHEfSTERISKeCIRCUMFLEX ACCENTfOLONgMMAiERCIAL ATeDIGIT EIGHTkFIVElOURkNINEkONEkSEVEN",
  "TAG DIGIT SIXkTHREElWOkZEROfOLLAR SIGNeEQUALS SIGNfXCLAMATION MARKeFULL STOPeGRAVE ACCENT",
  "TAG GREATER-THAN SIGNeHYPHEN-MINUSeLATIN CAPITAL LETTER AzBzCzDzEzFzGzHzIzJzKzLzMzNzOzPzQzRzSzT",
  "TAG LATIN CAPITAL LETTER UzVzWzXzYzZkSMALL LETTER AxBxCxDxExFxGxHxIxJxKxLxMxNxOxPxQxRxSxTxUxVxW",
  "TAG LATIN SMALL LETTER XxYxZfEFT CURLY BRACKETjPARENTHESISjSQUARE BRACKETgSS-THAN SIGNfOW LINE",
  "TAG NUMBER SIGNePERCENT SIGNfLUS SIGNeQUESTION MARKgOTATION MARKeREVERSE SOLIDUS",
  "TAG RIGHT CURLY BRACKETkPARENTHESISkSQUARE BRACKETeSEMICOLONfOLIDUSfPACEeTILDEeVERTICAL LINE",
  "TAGALOG LETTER AqRCHAIC RApBApDApGApHApIpKApLApMApNAqGApPApRApSApTApUpWApYAiSIGN PAMUDPOD",
  "TAGALOG SIGN VIRAMAiVOWEL SIGN ItUdBANWA LETTER AqBAqDAqGAqIqKAqLAqMAqNArGAqPAqSAqTAqUqWAqYA",
  "TAGBANWA VOWEL SIGN IuUcI LE LETTER ApIpUEoEpEpHoFAoHAoIoKApHAoLAoMAoNApGAoOpOoPApHAoQAoSAoTA",
  "TAI LE LETTER THApONE-2t3t4t5t6pSAqHAoUpEoVAoXAoYAeTHAM COMBINING CRYPTOGRAMMIC DOT",
  "TAI THAM CONSONANT SIGN BAyFINAL NGAyHIGH RATHA OR LOW PAyLA TANG LAIzOW PAyMAzEDIAL LAzgRAySA",
  "TAI THAM HORA DIGIT EIGHTuFIVEvOURuNINEuONEuSEVENvIXuTHREEvWOuZEROjLETTER AqBAqDAqEEqGREAT SA",
  "TAI THAM LETTER HIGH CAwHAvFAvHAvKAwHAwXAvPAwHAvRATHAvSAwHAwSAvTAwHAvYAqIrIqLAsErLArOW CAvHAuFA",
  "TAI THAM LETTER LOW HAuKAvHAvXAuPAvHAuRATHAuSAuTAvHAuYArUEqMAqNArGArYAqOOqRAsNAsTArUEqUrUqWA",
  "TAI THAM SIGN CAANGoDOKMAIoHANGpOYoKAANsKUUpEOWpHUEN TONE-3z4z5t-LUE KARANoMAI KANGw LAIsSAM",
  "TAI THAM SIGN MAI YAMOKoRA HAAMpEVERSED ROTATED RANAoSAKOTqTKAANvKUUqWANoTONE-1t2oWIANGtWAAK",
  "TAI THAM THAM DIGIT EIGHTuFIVEvOURuNINEuONEuSEVENvIXuTHREEvWOuZEROjVOWEL SIGN AvAvEvIuEuIvI",
  "TAI THAM VOWEL SIGN MAI SATuOvA ABOVExBELOWvOvYuTALL AAvHAM AIuUvEvUwEeVIET LETTER HIGH BOvCHO",
  "TAI VIET LETTER HIGH COvDOvFOvGOvHOvKHHOxOwOvLOvMOvNGOwOwYOvOvPHOwOvROvSOvTHOwOvVOvYOqLOW BO",
  "TAI VIET LETTER LOW CHOvOuDOuFOuGOuHOuKHHOwOvOuLOuMOuNGOvOvYOuOuPHOvOuROuSOuTHOvOuVOuYO",
  "TAI VIET MAI KANGoHITjSYMBOL HO HOIqKOI KOIsNqNUENGqSAMjTONE MAI EKsNUENGsSONGsTHOjVOWEL AAqMqN",
  "TAI VIET VOWEL AUEqYpEpIqApOpUqAqErAcKEOUT BOXdRI ABBREVIATION SIGNgDIGIT EIGHTmFIVEnOURmNINE",
  "TAKRI DIGIT ONEmSEVENnIXmTHREEnWOmZEROgLETTER AoAoIoRCHAIC KHAoUnBAoHAnCAoHAnDAoDApHAoHAnEnGA",
  "TAKRI LETTER GHAnHAnIoInJAoHAnKAoHAnLAnMAnNAoGAoNAoYAnOnPAoHAnRAoRAnSAoHAnTAoHAoTApHAnUoUnVAnYA",
  "TAKRI SIGN ANUSVARAlNUKTAlVIRAMAnSARGAgVOWEL SIGN AAsIsUrErIsIrOrUsUcLLY MARK FIVElONEcMALE",
  "TAMIL AND ODD SIGNhS ABOVE SIGNhU LENGTH MARKgCREDIT SIGNhURRENT SIGNgDAY SIGNhEBIT SIGN",
  "TAMIL DIGIT EIGHTmFIVEnOURmNINEmONEmSEVENnIXmTHREEnWOmZEROhRY CULTIVATION SIGN",
  "TAMIL FRACTION DOWNSCALING FACTOR KIIZHpONE EIGHTHyIETHtFIFTHuORTIETHtHALF-1y2",
  "TAMIL FRACTION ONE ONE-HUNDRED-AND-SIXTIETHtQUARTERtSIXTEENTH-1ze2xY-FOURTHtTENTHuHIRTY-SECOND",
  "TAMIL FRACTION ONE THREE-HUNDRED-AND-TWENTIETHuWENTIETHpTHREE EIGHTIETHSvQUARTERSvSIXTEENTHS",
  "TAMIL FRACTION THREE SIXTY-FOURTHSvTWENTIETHSgIN POSSESSION SIGNgLAND SIGNhETTER AoAoIoUnCAnEoE",
  "TAMIL LETTER HAnIoInJAnKAnLAoLApLAnMAnNAoGAoNApNAoYAnOoOnPAnRAoRAnSAoHAoSAnTAoTAnUoUnVAnYA",
  "TAMIL MONTH SIGNgNUMBER ONE HUNDREDrTHOUSANDnSIGNnTENgOMgPUNCTUATION END OF TEXTgRUPEE SIGN",
  "TAMIL SALT PAN SIGNhIGN AAZHAAKKUmNUSVARAlCEVITUlKAACUmURUNInZHIlMUKKURUNInTHALIYAnUVUZHAKKU",
  "TAMIL SIGN NELlPAARAMnNAMnTHAKKUmONlUZHAKKUlVAKAIYARAAnRAAKANmELImIRAMAnSARGAhPENT SIGN",
  "TAMIL STARTING FROM SIGNgTOTAL SIGNhRADITIONAL CREDIT SIGNsNUMBER SIGNgVOWEL SIGN AAsIsUrEsErI",
  "TAMIL VOWEL SIGN IIrOsOrUsUgWET CULTIVATION SIGNgYEAR SIGNcNABATA TREEdGERINEeSA DIGIT EIGHT",
  "TANGSA DIGIT FIVEoOURnNINEnONEnSEVENoIXnTHREEoWOnZEROhLETTER ACpQpWCqQqXqZpXpZoBAoCApHAoDApHA",
  "TANGSA LETTER ECpQpXpZoFApINAL NGoGApHAoHApTAqTAoICpQpXpZoKApHAoLApONG UEXoMApCpQpXpZoNApGApHA",
  "TANGSA LETTER NYAoOCpQpXpZoPApHAoRAoSApHAqORT AWXuUEZoTApHApSAoUCpECqQqXqZpICqQqUCrQrXrZqXqZpQ",
  "TANGSA LETTER UXpZoVCpQpXpZoWAoXAoYAoZAeUT COMPONENT-001t2t3t4t5t6t7t8t9s10t1t2t3t4t5t6t7t8t9",
  "TANGUT COMPONENT-020t1t2t3t4t5t6t7t8t9s30t1t2t3t4t5t6t7t8t9s40t1t2t3t4t5t6t7t8t9s50t1t2t3t4t5t6",
  "TANGUT COMPONENT-057t8t9s60t1t2t3t4t5t6t7t8t9s70t1t2t3t4t5t6t7t8t9s80t1t2t3t4t5t6t7t8t9s90t1t2",
  "TANGUT COMPONENT-093t4t5t6t7t8t9r100t1t2t3t4t5t6t7t8t9s10t1t2t3t4t5t6t7t8t9s20t1t2t3t4t5t6t7t8",
  "TANGUT COMPONENT-129s30t1t2t3t4t5t6t7t8t9s40t1t2t3t4t5t6t7t8t9s50t1t2t3t4t5t6t7t8t9s60t1t2t3t4",
  "TANGUT COMPONENT-165t6t7t8t9s70t1t2t3t4t5t6t7t8t9s80t1t2t3t4t5t6t7t8t9s90t1t2t3t4t5t6t7t8t9r200",
  "TANGUT COMPONENT-201t2t3t4t5t6t7t8t9s10t1t2t3t4t5t6t7t8t9s20t1t2t3t4t5t6t7t8t9s30t1t2t3t4t5t6t7",
  "TANGUT COMPONENT-238t9s40t1t2t3t4t5t6t7t8t9s50t1t2t3t4t5t6t7t8t9s60t1t2t3t4t5t6t7t8t9s70t1t2t3",
  "TANGUT COMPONENT-274t5t6t7t8t9s80t1t2t3t4t5t6t7t8t9s90t1t2t3t4t5t6t7t8t9r300t1t2t3t4t5t6t7t8t9",
  "TANGUT COMPONENT-310t1t2t3t4t5t6t7t8t9s20t1t2t3t4t5t6t7t8t9s30t1t2t3t4t5t6t7t8t9s40t1t2t3t4t5t6",
  "TANGUT COMPONENT-347t8t9s50t1t2t3t4t5t6t7t8t9s60t1t2t3t4t5t6t7t8t9s70t1t2t3t4t5t6t7t8t9s80t1t2",
  "TANGUT COMPONENT-383t4t5t6t7t8t9s90t1t2t3t4t5t6t7t8t9r400t1t2t3t4t5t6t7t8t9s10t1t2t3t4t5t6t7t8",
  "TANGUT COMPONENT-419s20t1t2t3t4t5t6t7t8t9s30t1t2t3t4t5t6t7t8t9s40t1t2t3t4t5t6t7t8t9s50t1t2t3t4",
  "TANGUT COMPONENT-455t6t7t8t9s60t1t2t3t4t5t6t7t8t9s70t1t2t3t4t5t6t7t8t9s80t1t2t3t4t5t6t7t8t9s90",
  "TANGUT COMPONENT-491t2t3t4t5t6t7t8t9r500t1t2t3t4t5t6t7t8t9s10t1t2t3t4t5t6t7t8t9s20t1t2t3t4t5t6",
  "TANGUT COMPONENT-527t8t9s30t1t2t3t4t5t6t7t8t9s40t1t2t3t4t5t6t7t8t9s50t1t2t3t4t5t6t7t8t9s60t1t2",
  "TANGUT COMPONENT-563t4t5t6t7t8t9s70t1t2t3t4t5t6t7t8t9s80t1t2t3t4t5t6t7t8t9s90t1t2t3t4t5t6t7t8t9",
  "TANGUT COMPONENT-600t1t2t3t4t5t6t7t8t9s10t1t2t3t4t5t6t7t8t9s20t1t2t3t4t5t6t7t8t9s30t1t2t3t4t5t6",
  "TANGUT COMPONENT-637t8t9s40t1t2t3t4t5t6t7t8t9s50t1t2t3t4t5t6t7t8t9s60t1t2t3t4t5t6t7t8t9s70t1t2",
  "TANGUT COMPONENT-673t4t5t6t7t8t9s80t1t2t3t4t5t6t7t8t9s90t1t2t3t4t5t6t7t8t9r700t1t2t3t4t5t6t7t8",
  "TANGUT COMPONENT-709s10t1t2t3t4t5t6t7t8t9s20t1t2t3t4t5t6t7t8t9s30t1t2t3t4t5t6t7t8t9s40t1t2t3t4",
  "TANGUT COMPONENT-745t6t7t8t9s50t1t2t3t4t5t6t7t8t9s60t1t2t3t4t5t6t7t8hITERATION MARK",
  "TAPE CARTRIDGEfDRIVEcURUScXIbEACUP WITHOUT HANDLEdPOTdR-OFF CALENDAR",
  "TEARDROP-BARBED RIGHTWARDS ARROWjSPOKED ASTERISKcDDY BEARcLEPHONE LOCATION SIGNkON TOP OF MODEM",
  "TELEPHONE RECEIVERs WITH PAGEnORDERkSIGNeSCOPEeVISIONdUGU AI LENGTH MARKhDIGIT EIGHTnFIVEoOUR",
  "TELUGU DIGIT NINEnONEnSEVENoIXnTHREEoWOnZEROhFRACTION DIGIT ONE FOR EVEN POWERS OF FOUR",
  "TELUGU FRACTION DIGIT ONE FOR ODD POWERS OF FOURwTHREE FOR EVEN POWERS OF FOUR",
  "TELUGU FRACTION DIGIT THREE FOR ODD POWERS OF FOURxWO FOR EVEN POWERS OF FOUR",
  "TELUGU FRACTION DIGIT TWO FOR ODD POWERS OF FOURwZERO FOR ODD POWERS OF FOURhLENGTH MARKjTTER A",
  "TELUGU LETTER AApIpUoBApHAoCApHAoDApDAqHApHApZAoEpEoGApHAoHAoIpIoJApHAoKApHAoLApLAqLAoMAoNA",
  "TELUGU LETTER NAKAARA POLLUpGApNApYAoOpOoPApHAoRApRAqRAoSApHApSAoTApHApSApTAqHAoUpUoVApOCALIC L",
  "TELUGU LETTER VOCALIC LLwRxRoYAhSIGN ANUSVARAnVAGRAHAmCANDRABINDUnOMBINING ANUSVARA ABOVE",
  "TELUGU SIGN COMBINING CANDRABINDU ABOVEmNUKTAmSIDDHAMmTUUMUmVIRAMAoSARGAhVOWEL SIGN AAtItUsEtE",
  "TELUGU VOWEL SIGN ItIsOtOsUtUsVOCALIC LzcLzbRzcRcNGE SIGNdNIS RACQUET AND BALLdTcST TUBE",
  "TETRAGRAM FOR ACCUMULATIONpDVANCEpGGRAVATIONpSCENToBARRIERpOLD RESOLUTIONpRANCHING OUToCENTRE",
  "TETRAGRAM FOR CHANGEpLOSED MOUTHtNESSsUREpOMPLETIONtIANCEqNSTANCYrTACTsENTIONsRARIETYoDARKENING",
  "TETRAGRAM FOR DECISIVENESSqFECTIVENESS OR DISTORTIONqPARTUREpIFFICULTIESqMINISHMENTrMING",
  "TETRAGRAM FOR DIVERGENCEpOUBTpUTIESoEASEpMBELLISHMENTpNCOUNTERSqDEAVOURqLARGEMENTpTERNITY",
  "TETRAGRAM FOR EXHAUSTIONoFAILUREpLIGHTpOLLOWINGqSTERINGpULL CIRCLEsNESSoGATHERINGx IN",
  "TETRAGRAM FOR GOING TO MEETpREATNESSpUARDEDNESSoHARDNESSpOLDING BACKoINCREASEqNERoJOY",
  "TETRAGRAM FOR KEEPING SMALLpINSHIPoLABOURINGqW OR MODELpEGIONoMASSINGpEASUREpIREDoON THE VERGE",
  "TETRAGRAM FOR OPPOSITIONoPACKINGqTTERNpENETRATIONpURITYoREACHqLEASEqSIDENCEsSTANCErPONSEpITUAL",
  "TETRAGRAM FOR SEVERANCEpINKINGpTOPPAGErVEqRENGTHoUNITYoVASTNESS OR WASTINGoWAITINGqTCH",
  "TETRAGRAM FOR YOUTHFULNESSbHAANA AABAAFILIiBAFILIhEBEFILIiEBEEFILIiYBEYFILIhIBIFILIhLETTER AINU",
  "THAANA LETTER ALIFUoBAAoCHAVIYANIoDAADHUqVIYANIpHAALUoFAAFUoGAAFUpHAINUpNAVIYANIoHAApHAA",
  "THAANA LETTER JAVIYANIoKAAFUpHAAoLAAMUpHAVIYANIoMEEMUoNAApOONUoPAVIYANIoQAAFUoRAAoSAADHUpEENU",
  "THAANA LETTER SHAVIYANIqEENUoTAVIYANIpHAAsLUpOpTAAoVAAVUoWAAVUoYAAoZAAqVIYANIpOhOABOAFILI",
  "THAANA OBOFILIiOBOOFILIhSUKUNhUBUFILIdI CHARACTER ANGKHANKHUpBO BAIMAIpCHO CHANxGvINGvOE",
  "THAI CHARACTER DO CHADAsDEKpFO FAuNrNGMANpHO HIPsNOKHUKpKHO KHAIvONvUATvWAItRAKHANGsMUTqO KAI",
  "THAI CHARACTER LAKKHANGYAOqO CHULAsLINGqUpMAI CHATTAWAtEKtHAN-AKATtTHOuRIsTAIKHUsYAMOKqO MA",
  "THAI CHARACTER NGO NGUqIKHAHITqO NENtUpO ANGpPAIYANNOIqHINTHUrO PHANvUNGtSAMPHAOqO PLApRO RUAqU",
  "THAI CHARACTER SARA AvAvEvI MAIMALAIzcUANvMuEuIvIuOuUvEwEvUqO RUSIsSALAtOtUApTHANTHAKHAT",
  "THAI CHARACTER THO NANGMONTHOtPHUTHAOtTHAHANwNvONGvUNGqO PATAKsTAOpWO WAENpYAMAKKANqO YAKtING",
  "THAI CURRENCY SYMBOL BAHTfDIGIT EIGHTlFIVEmOURlNINElONElSEVENmIXlTHREEmWOlZERO",
  "THERE DOES NOT EXISTgEXISTSfFOREeMODYNAMICgMETERcIN GREEK CROSSfSALTIREgPACEeKING FACE",
  "THIRD PLACE MEDALcONG SANDALdUGHT BALLOONcREE BUTTON MOUSEgCONSECUTIVE EQUALS SIGNS",
  "THREE DIMENSIONAL ANGLEhOT PUNCTUATIONgLEFTWARDS ARROWShINES CONVERGING LEFTxRIGHT",
  "THREE NETWORKED COMPUTERSgPOINTED BLACK STARgRAYS ABOVElBELOWlLEFTlRIGHThIGHTWARDS ARROWS",
  "THREE SPEECH BUBBLESf-D BOTTOM-LIGHTED RIGHTWARDS ARROWHEAD",
  "THREE-D LEFT-LIGHTED DOWNWARDS EQUILATERAL ARROWHEAD",
  "THREE-D RIGHT-LIGHTED UPWARDS EQUILATERAL ARROWHEADiTOP-LIGHTED LEFTWARDS EQUILATERAL ARROWHEAD",
  "THREE-D TOP-LIGHTED RIGHTWARDS ARROWHEADzgEQUILATERAL ARROWHEADgEM DASHgPER-EM SPACE",
  "THUMBS DOWN SIGNhUP SIGNdNDER CLOUD AND RAINhSTORMbIBETAN ASTROLOGICAL SIGN -KHYUD PA",
  "TIBETAN ASTROLOGICAL SIGN SDONG TSHUGSzcGRA GCAN -CHAR RTAGSiCANTILLATION SIGN CANG TE-U",
  "TIBETAN CANTILLATION SIGN HEAVY BEATzbLIGHT BEATzbSBUB -CHALiDIGIT EIGHToFIVEpOURoHALF EIGHT",
  "TIBETAN DIGIT HALF FIVEuOURtNINEtONEtSEVENuIXtTHREEuWOtZEROoNINEoONEoSEVENpIXoTHREEpWOoZERO",
  "TIBETAN KU RU KHAr BZHI MIG CANiLETTER -ApApBAqHApCAqHApDAqDArHAqHAqZArHApFIXED-FORM RApGAqHA",
  "TIBETAN LETTER HApJApKAqHAqKAqSSApLApMApNAqGAqNAqYApPAqHApRAqRApSAqHAqSApTAqHAqSArHAqTArHApWA",
  "TIBETAN LETTER YApZAqHAjOGOTYPE SIGN CHAD RTAGSwLHAG RTAGSiMARK ANG KHANG GYASzON",
  "TIBETAN MARK BKA- SHOG GI MGO RGYANxYIG MGOoSDUS RTAGSpKA- SHOG GI MGO RGYANqUR YIG MGO",
  "TIBETAN MARK CARET -DZUD RTAGS BZHI MIG CANzgME LONG CANtYIG MGO PHUR SHAD MAoHE MGO",
  "TIBETAN MARK CLOSING BRDA RNYING YIG MGO SGAB MAvYIG MGO SGAB MAnDELIMITER TSHEG BSTAR",
  "TIBETAN MARK GTER TSHEGsYIG MGO -UM GTER TSHEG MAzfRNAM BCAD MAzbTRUNCATED AoUG RTAGS GYASzON",
  "TIBETAN MARK HALANTAnINITIAL BRDA RNYING YIG MGO MDUN MAvYIG MGO MDUN MApTERSYLLABIC TSHEG",
  "TIBETAN MARK LEADING MCHAN RTAGSnMNYAM YIG GI MGO RGYANnNGAS BZUNG NYI ZLAySGOR RTAGSoYIS SHAD",
  "TIBETAN MARK NYIS TSHEGx SHADnPALUTAnRGYA GRAM SHADoIN CHEN SPUNGS SHADnSBRUL SHADoHAD",
  "TIBETAN MARK TRAILING MCHAN RTAGSoSA -PHRUpHEG SHADnYIG MGO TSHEG SHAD MAiSIGN GRU CAN RGYINGS",
  "TIBETAN SIGN GRU MED RGYINGSnINVERTED MCHU CANnLCE TSA CANpI RTAGSnMAR TSHESoCHU CAN",
  "TIBETAN SIGN NYI ZLA NAA DAnRDEL DKAR GCIGyNYISySUMxRDEL NAGsNAG GCIGxNYISxSUMwRDEL DKAR",
  "TIBETAN SIGN RJES SU NGA ROoNAM BCADnSNA LDANnYANG RTAGSpR TSHESjUBJOINED LETTER -AzAzBAzbHAzCA",
  "TIBETAN SUBJOINED LETTER CHAzDAzbDAzcHAzbHAzbZAzcHAzFIXED-FORM RAzlWAzlYAzGAzbHAzHAzJAzKAzbHA",
  "TIBETAN SUBJOINED LETTER KSSAzLAzMAzNAzbGAzbNAzbYAzPAzbHAzRAzSAzbHAzbSAzTAzbHAzbSAzcHAzbTAzcHA",
  "TIBETAN SUBJOINED LETTER WAzYAzZAzbHAsSIGN INVERTED MCHU CANxLCE TSA CANxMCHU CANjYLLABLE OM",
  "TIBETAN SYMBOL DRIL BUpNOR BUv BZHI -KHYILwGSUM -KHYILwNYIS -KHYILpPADMA GDANqHUR PApRDO RJE",
  "TIBETAN SYMBOL RDO RJE RGYA GRAMiVOWEL SIGN AAtEuEtIuItOuOtREVERSED IzeItUuUtVOCALIC LzdLzcRzdR",
  "TICKETcE OVER INFINITYcFINAGH CONSONANT JOINERjLETTER AHAGGAR YAZHrYER YAGHqBERBER ACADEMY YAH",
  "TIFINAGH LETTER BERBER ACADEMY YAJqTAWELLEMET YAZrUAREG YAGHzbNzHzKzbHzNGzQzZHqYAsAsBtHsCHsDtD",
  "TIFINAGH LETTER YADDHtHsFsGtHuHsHtHsJsKtHuHsLsMsNsPsQsRtRsStHtSsTtHtTsVsWsYsZtHtZrEsYrIrOrU",
  "TIFINAGH MODIFIER LETTER LABIALIZATION MARKjSEPARATOR MARKcGERf FACEdHT TRIFOLIATE SNOWFLAKE",
  "TILDEf OPERATORo ABOVE LEFTWARDS ARROWvRIGHTWARDS ARROWpWITH DOT ABOVEuRISING DOTS",
  "TILDE WITH DOT ABOVEpBELOWlRING ABOVEcMER CLOCKeS WITH LEFT HALF BLACKlRIGHT HALF BLACKcNY",
  "TINY TWO DOTS OVER ONE DOT PUNCTUATIONcRED FACEdHUTA ABBREVIATION SIGNjNJIiDIGIT EIGHToFIVEpOUR",
  "TIRHUTA DIGIT NINEoONEoSEVENpIXoTHREEpWOoZEROiGVANGiLETTER AqAqIqUpBAqHApCAqHApDAqDArHAqHApEpGA",
  "TIRHUTA LETTER GHApHApIqIpJAqHApKAqHApLApMApNAqGAqNAqYApOpPAqHApRApSAqHAqSApTAqHAqTArHApUqUpVA",
  "TIRHUTA LETTER VOCALIC LyLxRyRpYAiOMiSIGN ANUSVARAoVAGRAHAnCANDRABINDUnNUKTAnVIRAMApSARGA",
  "TIRHUTA VOWEL SIGN AAuIuUtEtIuItOtSHORT EzOtUuUtVOCALIC LzdLzcRzdRdONIAN SIGN CAPITAL EToET",
  "TOILETcKYO TOWERcMATOcNGUEcOLBOXdTHfBRUSHcP ARC ANTICLOCKWISE ARROWzc WITH PLUS",
  "TOP ARC CLOCKWISE ARROW WITH MINUSeCURLY BRACKETeHALF BLACK CIRCLEjINTEGRALjLEFT PARENTHESIS",
  "TOP HALF RIGHT PARENTHESISjSECTION SIGNgTeLEFT CORNERkROPjHALF BRACKETePARENTHESISeRIGHT CORNER",
  "TOP RIGHT CROPkHALF BRACKETeSQUARE BRACKETeTORTOISE SHELL BRACKETeWITH UPWARDS ARROW ABOVE",
  "TORTOISE SHELL BRACKETED CJK UNIFIED IDEOGRAPH-4E09zy8Czw52DDzxB89zw6253zx557zx72Czw70B9zx6D7",
  "TORTOISE SHELL BRACKETED LATIN CAPITAL LETTER ScTAL RUNOUTdO LETTER AnEmBAnREATHY AEuEvOuIvU",
  "TOTO LETTER CHAmDAmEnOmGAmHAmInUmJAmKAmLAmMAmNAnGAmOmPAmRAmSAmTAmUmWAmYAfSIGN RISING TONE",
  "TRACKBALLeTORdDE MARK SIGNdINdMe CARdNSPLUTOfVERSAL INTERSECTIONcIANGLE WITH DOT ABOVE",
  "TRIANGLE WITH ROUNDED CORNERSoSERIFS AT BOTTOMoUNDERBARi-HEADED RIGHTWARDS ARROWgULAR BULLET",
  "TRIANGULAR FLAG ON POSTlRULERdCOLONdDENT EMBLEMdGRAM FOR EARTHmFIREmHEAVENmLAKEmMOUNTAIN",
  "TRIGRAM FOR THUNDERmWATERnINDdPLE COLON OPERATORhDAGGER",
  "TRIPLE HORIZONTAL BAR WITH DOUBLE VERTICAL STROKEzcTRIPLE VERTICAL STROKEhINTEGRAL",
  "TRIPLE NESTED GREATER-THANoLESS-THANhPLUSiRIMEhSOLIDUS BINARY RELATIONhTILDE",
  "TRIPLE VERTICAL BAR BINARY RELATIONuDELIMITERuRIGHT TURNSTILEuWITH HORIZONTAL STROKEcOLLfEYBUS",
  "TROPHYeICAL DRINKjFISHcUEe LIGHT MOON ARTAdMPETbUGRIK SIGNcLIPcMBLER GLASScRKEYeISH LIRA SIGN",
  "TURNED AMPERSANDiNGLEhBLACK PENTAGONnSHOGI PIECEhCAPITAL FiOMMAhDAGGERiIGIT THREEoWO",
  "TURNED GREEK SMALL LETTER IOTAhNORTH EAST POINTING LEAFnWEST POINTING LEAFjT SIGNhOK HAND SIGN",
  "TURNED SANS-SERIF CAPITAL GzbLzbYiEMICOLONiMALL FiOUTH EAST POINTING LEAFnWEST POINTING LEAF",
  "TURNED WHITE SHOGI PIECEdTLEbWELVE POINTED BLACK STARcISTED RIGHTWARDS ARROWS",
  "TWO ASTERISKS ALIGNED VERTICALLYeBUTTON MOUSEeCONSECUTIVE EQUALS SIGNSeDOT LEADERiPUNCTUATION",
  "TWO DOTS OVER ONE DOT PUNCTUATIONeHEARTSeINTERSECTING LOGICAL ANDzOReJOINED SQUARES",
  "TWO LOGICAL AND OPERATORmOR OPERATOReMEN HOLDING HANDSeSPEECH BUBBLESeWOMEN HOLDING HANDS",
  "TWO-EM DASHaUGARITIC LETTER AINrLPAqBETAqDELTArHALqGAMLArHAINqHOsTAqIqKAFrHAqLAMDAqMEMqNUNqPU",
  "UGARITIC LETTER QOPAqRASHAqSADEsMKArHINrSUqTETrHANNArOqUqWOqYODqZETArUjWORD DIVIDERbMBRELLA",
  "UMBRELLA ON GROUNDjWITH RAIN DROPSbNAMUSED FACEcCERTAINTY SIGNcDERTIEdO SYMBOLcICORN FACEdON",
  "UNION ABOVE BAR ABOVE INTERSECTIONmINTERSECTIONgBESIDE AND JOINED WITH UNIONgWITH LOGICAL OR",
  "UNION WITH MINUS SIGNlOVERBARdT SEPARATOReED SYMBOLdVERSAL RECYCLING SYMBOL",
  "UNMARRIED PARTNERSHIP SYMBOLbP ARROW THROUGH CIRCLEiHEADm BETWEEN TWO HORIZONTAL BARS",
  "UP ARROWHEAD IN A RECTANGLE BOXdBARB LEFT DOWN BARB LEFT HARPOONxRIGHT HARPOON",
  "UP BARB RIGHT DOWN BARB LEFT HARPOONyRIGHT HARPOONdDOWN ARROWn WITH BASEiBLACK ARROW",
  "UP DOWN DOUBLE ARROWiSANS-SERIF ARROWiTRIANGLE-HEADED ARROWiWHITE ARROWdFISH TAIL",
  "UP RIGHT DIAGONAL ELLIPSISdTACKh WITH CIRCLE ABOVEc-POINTING AIRPLANEmMILITARY AIRPLANE",
  "UP-POINTING RED TRIANGLEmSMALL AIRPLANEsRED TRIANGLEmTRIANGLE WITH LEFT HALF BLACK",
  "UP-POINTING TRIANGLE WITH RIGHT HALF BLACK",
  "UPPER AND LEFT AND LOWER TRIANGULAR THREE QUARTERS BLOCKlOWER ONE EIGHTH BLOCK",
  "UPPER AND LOWER TRIANGULAR HALF BLOCKkRIGHT AND LOWER TRIANGULAR THREE QUARTERS BLOCK",
  "UPPER BLADE SCISSORSgFIVE EIGHTHS BLOCKgHALF BLOCKq AND LOWER HALF INVERSE MEDIUM SHADElCIRCLE",
  "UPPER HALF INVERSE MEDIUM SHADE AND LOWER HALF BLOCKtWHITE CIRCLElMEDIUM SHADE",
  "UPPER LEFT BLOCK DIAGONAL LOWER CENTRE TO LOWER MIDDLE RIGHTzrUPPER MIDDLE RIGHTzxRIGHT",
  "UPPER LEFT BLOCK DIAGONAL LOWER LEFT TO LOWER MIDDLE RIGHTzpUPPER CENTREzvMIDDLE RIGHT",
  "UPPER LEFT BLOCK DIAGONAL LOWER MIDDLE LEFT TO UPPER CENTREzzdMIDDLE RIGHTzzdRIGHT",
  "UPPER LEFT BLOCK DIAGONAL UPPER MIDDLE LEFT TO UPPER CENTREzzdRIGHTlCORNER WITH DOT",
  "UPPER LEFT OR LOWER RIGHT CURLY BRACKET SECTIONlQUADRANT CIRCULAR ARClTO LOWER RIGHT FILL",
  "UPPER LEFT TRIANGLErULAR MEDIUM SHADEgONE EIGHTH BLOCKkQUARTER BLOCK",
  "UPPER RIGHT BLOCK DIAGONAL LOWER MIDDLE LEFT TO LOWER CENTREzzeRIGHT",
  "UPPER RIGHT BLOCK DIAGONAL UPPER CENTRE TO LOWER MIDDLE RIGHTzyRIGHTzsUPPER MIDDLE RIGHT",
  "UPPER RIGHT BLOCK DIAGONAL UPPER LEFT TO LOWER CENTREzwMIDDLE RIGHTzqUPPER MIDDLE RIGHT",
  "UPPER RIGHT BLOCK DIAGONAL UPPER MIDDLE LEFT TO LOWER CENTREzzeMIDDLE RIGHTzzeRIGHT",
  "UPPER RIGHT DROP-SHADOWED WHITE SQUAREmOR LOWER LEFT CURLY BRACKET SECTIONmPENCIL",
  "UPPER RIGHT QUADRANT CIRCULAR ARCmSHADOWED WHITE CIRCLEzcSQUAREmTO LOWER LEFT FILLnRIANGLE",
  "UPPER RIGHT TRIANGULAR MEDIUM SHADEgSEVEN EIGHTHS BLOCKgTHREE EIGHTHS BLOCKmQUARTERS BLOCK",
  "UPPER TRIANGULAR ONE QUARTER BLOCKcSIDE-DOWN FACEcWARDS ANCORAjRROWn AND RIGHT ONE EIGHTH BLOCK",
  "UPWARDS ARROW FROM BARoLEFTWARDS OF DOWNWARDS ARROWoTO BARoWITH DOUBLE STROKE",
  "UPWARDS ARROW WITH EQUILATERAL ARROWHEADtHORIZONTAL STROKEtLARGE TRIANGLE ARROWHEAD",
  "UPWARDS ARROW WITH MEDIUM TRIANGLE ARROWHEADtNOTCHED TAILtSMALL EQUILATERAL ARROWHEAD",
  "UPWARDS ARROW WITH SMALL TRIANGLE ARROWHEADtTIP LEFTWARDSxRIGHTWARDSiBLACK ARROW",
  "UPWARDS BLACK CIRCLED WHITE ARROWiCOMPRESSED ARROWiDASHED ARROWjOUBLE ARROWiFINGER-POST ARROW",
  "UPWARDS HARPOON WITH BARB LEFT BESIDE DOWNWARDS HARPOON WITH BARB RIGHT",
  "UPWARDS HARPOON WITH BARB LEFT BESIDE UPWARDS HARPOON WITH BARB RIGHTzgFROM BARzgTO BARzfWARDS",
  "UPWARDS HARPOON WITH BARB RIGHT FROM BARzhTO BARzgWARDSjEAVY ARROWoCOMPRESSED ARROW",
  "UPWARDS PAIRED ARROWSiQUADRUPLE ARROWiROCKETiSANS-SERIF ARROWjQUARED ARROWiTRIANGLE ARROWHEAD",
  "UPWARDS TRIANGLE-HEADED ARROWze LEFTWARDS OF DOWNWARDS TRIANGLE-HEADED ARROWzfTO BAR",
  "UPWARDS TRIANGLE-HEADED ARROW WITH BOLD SHAFTzkDOUBLE HORIZONTAL STROKEzkHEAVY SHAFT",
  "UPWARDS TRIANGLE-HEADED ARROW WITH LONG TIP LEFTWARDSztRIGHTWARDSzkMEDIUM SHAFTzkNARROW SHAFT",
  "UPWARDS TRIANGLE-HEADED ARROW WITH VERY HEAVY SHAFTyDASHED ARROWyPAIRED ARROWSlPLE ARROW",
  "UPWARDS TWO HEADED ARROWl-HEADED ARROW FROM SMALL CIRCLEzWITH TRIANGLE ARROWHEADSiWHITE ARROW",
  "UPWARDS WHITE ARROW FROM BARzd WITH HORIZONTAL BARuON PEDESTALzg WITH HORIZONTAL BAR",
  "UPWARDS WHITE ARROW ON PEDESTAL WITH VERTICAL BARuWITHIN TRIANGLE ARROWHEADoDOUBLE ARROW",
  "UPWARDS WHITE DOUBLE ARROW ON PEDESTALbRANUSbSaVAI COMMAeDIGIT EIGHTkFIVElOURkNINEkONEkSEVENlIX",
  "VAI DIGIT THREElWOkZEROeFULL STOPeQUESTION MARKeSYLLABLE AoNnBAoEpEoHApEqEpIpOqOpUoIoOpOoUnCAoE",
  "VAI SYLLABLE CEEoIoOpOoUnDAoEpEoHApEqEpHAqErEqIqOrOqUpIpOqOpUoIoOpOoUnEoEpNoNnFAoEpEoIoOpOoUnGA",
  "VAI SYLLABLE GBApEqEqNpIpOqNqOpUoEpEpNoIoOpOoUnHApNoEpEpNoIpNoOpNpOoUpNnIoNnJAoEpEoIoOpOoUnKApN",
  "VAI SYLLABLE KEpEoIoOpOoPAqNpEqEqNpIpOqOpUoUnLAoEpEpNGTHENERoIoOpOoUnMAoBApEqEpIpOqOpUoEpEoGBA",
  "VAI SYLLABLE MGBErEqIqOrOqUoIoOpOoUnNAoDApEqEpIpOqLE DOtFAtKAtMAtSOOqOpUoEpEoGpANpENpGAqErErNqI",
  "VAI SYLLABLE NGGOrOqUpONoIoJApEqEpIpOqOpUoOpOoUoYApEqEpIpOqOpUnOoNoOpNnPAoEpEoIoOpOoUnRAoEpEoI",
  "VAI SYLLABLE ROpOoUnSAoEpEoHApEqEpIpOqOpUoIoOpOoUnTAoEpEoHApEqEpIpOqOpUoIoOpOoUnUoNnVAoEpEoIoO",
  "VAI SYLLABLE VOOoUnWApNoEpEqNpNoIpNoOpNpOqNoUpNnYAoEpEoIoOpOoUnZAoEpEoHApEqEpIpOqOpUoIoOpOoU",
  "VAI SYMBOL BANGlDANGmO-OnONGlFAAmEENGlJONGlKEENGmUNGlNIIlTAAmINGmONGcMPIREcRIATION SELECTOR-1u0",
  "VARIATION SELECTOR-100v1v2v3v4v5v6v7v8v9u1v0v1v2v3v4v5v6v7v8v9u2v0v1v2v3v4v5v6v7v8v9u3v0v1v2v3",
  "VARIATION SELECTOR-134v5v6v7v8v9u4v0v1v2v3v4v5v6v7v8v9u5v0v1v2v3v4v5v6v7v8v9u6v0v1v2v3v4v5v6v7",
  "VARIATION SELECTOR-168v9u7v0v1v2v3v4v5v6v7v8v9u8v0v1v2v3v4v5v6v7v8v9u9v0v1v2v3v4v5v6v7v8v9t2u0",
  "VARIATION SELECTOR-200v1v2v3v4v5v6v7v8v9u1v0v1v2v3v4v5v6v7v8v9u2v0v1v2v3v4v5v6v7v8v9u3v0v1v2v3",
  "VARIATION SELECTOR-234v5v6v7v8v9u4v0v1v2v3v4v5v6v7v8v9u5v0v1v2v3v4v5v6u6u7u8u9t3u0u1u2u3u4u5u6",
  "VARIATION SELECTOR-37u8u9t4u0u1u2u3u4u5u6u7u8u9t5u0u1u2u3u4u5u6u7u8u9t6u0u1u2u3u4u5u6u7u8u9t7u0",
  "VARIATION SELECTOR-71u2u3u4u5u6u7u8u9t8u0u1u2u3u4u5u6u7u8u9t9u0u1u2u3u4u5u6u7u8u9",
  "VECTOR OR CROSS PRODUCTcDIC SIGN ANUSVARA ANTARGOMUKHAuBAHIRGOMUKHAuUBHAYATO MUKHAuVAMAGOMUKHA",
  "VEDIC SIGN ANUSVARA VAMAGOMUKHA WITH TAILmRDHAVISARGAmTIKRAMAlDOUBLE ANUSVARA ANTARGOMUKHA",
  "VEDIC SIGN HEXIFORM LONG ANUSVARAlJIHVAMULIYAlLONG ANUSVARAlNIHSHVASAlREVERSED VISARGA ANUDATTA",
  "VEDIC SIGN REVERSED VISARGA UDATTAmOTATED ARDHAVISARGAmTHANG LONG ANUSVARAlTIRYAKlUPADHMANIYA",
  "VEDIC SIGN VISARGA ANUDATTAzc WITH TAILtSVARITAtUDATTAz WITH TAILlYAJURVEDIC MIDLINE SVARITA",
  "VEDIC TONE ATHARVAVEDIC INDEPENDENT SVARITAlCANDRA ABOVEsBELOWlDOT BELOWnUBLE RING ABOVE",
  "VEDIC TONE DOUBLE SVARITAlKARSHANAnTHAKA ANUDATTAlPRENKHAlRIGVEDIC KASHMIRI INDEPENDENT SVARITA",
  "VEDIC TONE RING ABOVElSHARAlTHREE DOTS BELOWmRIPLE SVARITAmWO DOTS BELOW",
  "VEDIC TONE YAJURVEDIC AGGRAVATED INDEPENDENT SVARITAwINDEPENDENT SVARITA",
  "VEDIC TONE YAJURVEDIC KATHAKA INDEPENDENT SVARITAzy SCHROEDERcRSICLE",
  "VERTICAL BAR BESIDE RIGHT TRIANGLEnDOUBLE LEFT TURNSTILEnTRIPLE RIGHT TURNSTILE",
  "VERTICAL BAR WITH HORIZONTAL STROKEjELLIPSISjFOUR DOTSjIDEOGRAPHIC ITERATION MARK",
  "VERTICAL KANA REPEAT MARKz LOWER HALFzbUPPER HALFvWITH VOICED SOUND MARKzs UPPER HALFjLINE",
  "VERTICAL LINE EXTENSIONoWITH CIRCLE ABOVEzbBELOWtMIDDLE DOTjMALE WITH STROKE SIGN",
  "VERTICAL ONE EIGHTH BLOCK-2zb3zb4zb5zb6zb7jSIX DOTSjTAB KEYmULATIONt SETkILDEkRAFFIC LIGHT",
  "VERTICAL ZIGZAG LINEdY BOLD GREEK CROSSfHEAVY EIGHT POINTED BLACK STARrSPOKED ASTERISK",
  "VERY HEAVY FIVE SPOKED ASTERISKlGREEK CROSSlREVERSE SOLIDUSlSALTIREmIX SPOKED ASTERISKmOLIDUS",
  "VERY HEAVY WHITE CIRCLErSQUAREfMUCH GREATER-THANkLESS-THANcSTAbIBRATION MODEcCTORY HAND",
  "VIDEO CAMERAgGAMEfCASSETTEcETNAMESE ALTERNATE READING MARK CAzjNHAYdWDATA SQUAREcOLINcRGO",
  "VITHKUQI CAPITAL LETTER AyBBEzEyCEzHEyDEzHEyEzIyFEyGAyHAzHAyIzJEyJEyKAyLAzLAyMEyNEzJEyOyPEyQA",
  "VITHKUQI CAPITAL LETTER REySEzHEyTEzHEyUyVEyXEyYyZEjSMALL LETTER AwBBExEwCExHEwDExHEwExIwFEwGA",
  "VITHKUQI SMALL LETTER HAxHAwIxJEwJEwKAwLAxLAwMEwNExJEwOwPEwQAwREwSExHEwTExHEwUwVEwXEwYwZE",
  "VOIDED GREEK CROSScLCANOdLEYBALLdUME INTEGRALbS1d0e0e1e2e3e4e5e6e7e8e9d1e0e1e2e3e4e5e6e7e8e9d2",
  "VS120e1e2e3e4e5e6e7e8e9d3e0e1e2e3e4e5e6e7e8e9d4e0e1e2e3e4e5e6e7e8e9d5e0e1e2e3e4e5e6e7e8e9d6e0e1",
  "VS162e3e4e5e6e7e8e9d7e0e1e2e3e4e5e6e7e8e9d8e0e1e2e3e4e5e6e7e8e9d9e0e1e2e3e4e5e6e7e8e9c2d0e0e1e2",
  "VS203e4e5e6e7e8e9d1e0e1e2e3e4e5e6e7e8e9d2e0e1e2e3e4e5e6e7e8e9d3e0e1e2e3e4e5e6e7e8e9d4e0e1e2e3e4",
  "VS245e6e7e8e9d5e0e1e2e3e4e5e6d6d7d8d9c3d0d1d2d3d4d5d6d7d8d9c4d0d1d2d3d4d5d6d7d8d9c5d0d1d2d3d4d5",
  "VS56d7d8d9c6d0d1d2d3d4d5d6d7d8d9c7d0d1d2d3d4d5d6d7d8d9c8d0d1d2d3d4d5d6d7d8d9c9d0d1d2d3d4d5d6d7",
  "VS98d9bTcSbULCANUSdGAR FRACTION FIVE EIGHTHSvSIXTHSrOUR FIFTHSqONE EIGHTHuFIFTHuHALFuNINTH",
  "VULGAR FRACTION ONE QUARTERuSEVENTHvIXTHuTENTHvHIRDqSEVEN EIGHTHSqTHREE EIGHTHSwFIFTHSwQUARTERS",
  "VULGAR FRACTION TWO FIFTHSuTHIRDSqZERO THIRDSaWAFFLEcNCHO DIGIT EIGHTnFIVEoOURnNINEnONEnSEVEN",
  "WANCHO DIGIT SIXnTHREEoWOnZEROhLETTER ApAqNrGpNGpUoBAoCAoDAoEpNoFAoGAoHAoIpNGoJAoKApHAoLApLHA",
  "WANCHO LETTER MAoNApGApYAoOpNqGoPApHAoRAoSApHAoTApHApRApSAoUpENoVAoWAoYApIHoZAhNGUN SIGN",
  "WANCHO TONE KOIpNImTUPpNIdING CRESCENT MOON SYMBOLhGIBBOUS MOON SYMBOL",
  "WARANG CITI CAPITAL LETTER AzdMzdNGzdTzcBUzcDAzcEzdNNzeYzcGAzcHARzdIYOzdOLOzeRRzcIIzcKOzcNGAA",
  "WARANG CITI CAPITAL LETTER NUNGzcOzdDDzcPUzcSIIzdSUUzcTTEzcUCzdUzcVIYOzcWIzcYAzdOzdUzeJ",
  "WARANG CITI DIGIT EIGHTsFIVEtOURsNINEsONEsSEVENtIXsTHREEtWOsZEROmNUMBER EIGHTYtFIFTYuORTY",
  "WARANG CITI NUMBER NINETYtSEVENTYuIXTYtTENuHIRTYuWENTYmOMmSMALL LETTER AzbMzbNGzbTzBUzDAzEzbNN",
  "WARANG CITI SMALL LETTER ENYzGAzHARzbIYOzbOLOzcRRzIIzKOzNGAAzbUNGzOzbDDzPUzSIIzbSUUzTTEzUCzbU",
  "WARANG CITI SMALL LETTER VIYOzWIzYAzbOzbUzcJdNING SIGNcSTEBASKETcTCHdER BUFFALOgCLOSETgPOLO",
  "WATER WAVEfMELONcVE ARROW POINTING DIRECTLY LEFTzeRIGHTfDASHdING BLACK FLAGhHAND SIGN",
  "WAVING WHITE FLAGdY DASHfLINEgOW LINEfOVERLINEcXING CRESCENT MOON SYMBOLhGIBBOUS MOON SYMBOL",
  "WEARY CAT FACEgFACEcDDINGdGE-TAILED RIGHTWARDS ARROWcIERSTRASS ELLIPTIC FUNCTIONdGHT LIFTER",
  "WEST SYRIAC CROSSbHALEcEELf OF DHARMAfCHAIR SYMBOLcITE ARROW SHAFT WIDTH ONEyTWO THIRDSgBULLET",
  "WHITE CHESS BISHOPs ROTATED NINETY DEGREESzcTWO HUNDRED SEVENTY DEGREESmEQUIHOPPER",
  "WHITE CHESS EQUIHOPPER ROTATED NINETY DEGREESmKINGq ROTATED NINETY DEGREES",
  "WHITE CHESS KING ROTATED TWO HUNDRED SEVENTY DEGREESnNIGHTs ROTATED FORTY-FIVE DEGREES",
  "WHITE CHESS KNIGHT ROTATED NINETY DEGREESzcONE HUNDRED THIRTY-FIVE DEGREES",
  "WHITE CHESS KNIGHT ROTATED THREE HUNDRED FIFTEEN DEGREESzdWO HUNDRED SEVENTY DEGREES",
  "WHITE CHESS KNIGHT ROTATED TWO HUNDRED TWENTY-FIVE DEGREESs-BISHOPtQUEENtROOKmPAWN",
  "WHITE CHESS PAWN ROTATED NINETY DEGREESzTWO HUNDRED SEVENTY DEGREESmQUEEN",
  "WHITE CHESS QUEEN ROTATED NINETY DEGREESzbTWO HUNDRED SEVENTY DEGREESmROOK",
  "WHITE CHESS ROOK ROTATED NINETY DEGREESzTWO HUNDRED SEVENTY DEGREESmTURNED BISHOPtKINGuNIGHT",
  "WHITE CHESS TURNED PAWNtQUEENtROOKhIRCLEm CONTAINING BLACK SMALL CIRCLEnWITH DOT RIGHTuWN ARROW",
  "WHITE CIRCLE WITH LOWER LEFT QUADRANTyRIGHT QUADRANTsTWO DOTSsUPPER LEFT QUADRANT",
  "WHITE CIRCLE WITH UPPER RIGHT QUADRANThLUB SUIThONCAVE-SIDED DIAMONDzc WITH LEFTWARDS TICK",
  "WHITE CONCAVE-SIDED DIAMOND WITH RIGHTWARDS TICKgDIAMONDn CONTAINING BLACK MEDIUM DIAMOND",
  "WHITE DIAMOND CONTAINING BLACK SMALL DIAMONDzgVERY SMALL DIAMONDoIN SQUAREoSUIT",
  "WHITE DIAMOND WITH CENTRED DOThOWN POINTING BACKHAND INDEXuINDEXuLEFT HAND INDEX",
  "WHITE DOWN-POINTING SMALL TRIANGLEuTRIANGLEhRAUGHTS KINGpMANgEXCLAMATION MARK ORNAMENTgFLAG",
  "WHITE FLAG WITH HORIZONTAL MIDDLE BLACK STRIPEiORETTEjWERhOUR POINTED CUSPtSTARhROWNING FACE",
  "WHITE HARD SHELL FLOPPY DISKhEARTl SUITjVY CHECK MARKmSALTIRE WITH ROUNDED CORNERSiXAGON",
  "WHITE HORIZONTAL ELLIPSEiURGLASSgLARGE SQUAREiTIN CROSShEFT LANE MERGElPOINTING BACKHAND INDEX",
  "WHITE LEFT POINTING INDEXk-POINTING POINTERuSMALL TRIANGLEuTRIANGLE",
  "WHITE LOZENGE CONTAINING BLACK SMALL LOZENGEgMEDIUM DIAMONDnLOZENGEnSMALL SQUAREoQUAREoTAR",
  "WHITE MOON SELENAgNIBgPARALLELOGRAMhENNANTjTAGONgQUESTION MARK ORNAMENTgRECTANGLE",
  "WHITE RIGHT POINTING BACKHAND INDEXvINDEXl-POINTING PENTAGONwOINTERvSMALL TRIANGLEvTRIANGLE",
  "WHITE SCISSORShESAME DOThHOGI PIECEhMALL LOZENGEmSQUAREnTARiILING FACEhPADE SUIThQUAREm BUTTON",
  "WHITE SQUARE CONTAINING BLACK MEDIUM SQUAREzfSMALL SQUAREzfVERY SMALL SQUARE",
  "WHITE SQUARE WITH CENTRE VERTICAL LINEsLEFTWARDS TICKtOWER LEFT QUADRANTyRIGHT QUADRANT",
  "WHITE SQUARE WITH RIGHTWARDS TICKtOUNDED CORNERSsUPPER LEFT QUADRANTyRIGHT QUADRANT",
  "WHITE SQUARE WITH VERTICAL BISECTING LINEhTARhUNj BEHIND CLOUDw WITH RAINkWITH RAYSpSMALL CLOUD",
  "WHITE TELEPHONEhOUCHTONE TELEPHONEhRAPEZIUMiIANGLE CONTAINING SMALL WHITE TRIANGLE",
  "WHITE TWO-WAY LEFT WAY TRAFFICgUP POINTING BACKHAND INDEXsINDEXi-POINTING CHEVRON",
  "WHITE UP-POINTING SMALL TRIANGLEsTRIANGLEzb WITH DOTgVERTICAL BARpELLIPSEpRECTANGLE",
  "WHITE VERY SMALL SQUAREf-FEATHERED RIGHTWARDS ARROWbIDE-HEADED DOWNWARDS BARB ARROW",
  "WIDE-HEADED DOWNWARDS HEAVY BARB ARROWwLIGHT BARB ARROWwMEDIUM BARB ARROWwVERY HEAVY BARB ARROW",
  "WIDE-HEADED LEFTWARDS BARB ARROWwHEAVY BARB ARROWwLIGHT BARB ARROWwMEDIUM BARB ARROW",
  "WIDE-HEADED LEFTWARDS VERY HEAVY BARB ARROWmNORTH EAST BARB ARROWxHEAVY BARB ARROW",
  "WIDE-HEADED NORTH EAST LIGHT BARB ARROWxMEDIUM BARB ARROWxVERY HEAVY BARB ARROWsWEST BARB ARROW",
  "WIDE-HEADED NORTH WEST HEAVY BARB ARROWxLIGHT BARB ARROWxMEDIUM BARB ARROW",
  "WIDE-HEADED NORTH WEST VERY HEAVY BARB ARROWmRIGHTWARDS BARB ARROWxHEAVY BARB ARROW",
  "WIDE-HEADED RIGHTWARDS LIGHT BARB ARROWxMEDIUM BARB ARROWxVERY HEAVY BARB ARROW",
  "WIDE-HEADED SOUTH EAST BARB ARROWxHEAVY BARB ARROWxLIGHT BARB ARROWxMEDIUM BARB ARROW",
  "WIDE-HEADED SOUTH EAST VERY HEAVY BARB ARROWsWEST BARB ARROWxHEAVY BARB ARROWxLIGHT BARB ARROW",
  "WIDE-HEADED SOUTH WEST MEDIUM BARB ARROWxVERY HEAVY BARB ARROWmUPWARDS BARB ARROW",
  "WIDE-HEADED UPWARDS HEAVY BARB ARROWuLIGHT BARB ARROWuMEDIUM BARB ARROWuVERY HEAVY BARB ARROW",
  "WIGGLY VERTICAL LINEcLTED FLOWERcND BLOWING FACEfCHIMEeOWdE GLASSdKING FACEcRED KEYBOARDbJ",
  "WOLF FACEcMANf WITH BUNNY EARSfS BOOTShCLOTHEShHAThSANDALdENS SYMBOLcN SIGNcODcRD JOINER",
  "WORD SEPARATOR MIDDLE DOTdLD MAPdMdRIED FACEbRAPPED PRESENTcEATH PRODUCTdNCHdSTLERScITING HAND",
  "X IN A RECTANGLE BOXb-RAYbIANGQI BLACK CANNONpHARIOToELEPHANToGENERALoHORSEoMANDARINoSOLDIER",
  "XIANGQI RED CANNONnHARIOTmELEPHANTmGENERALmHORSEmMANDARINmSOLDIERbORaYAWNING FACEbELLOW HEART",
  "YEN SIGNcZIDI COMBINING HAMZA MARKrMADDA MARKhHYPHENATION MARKhLETTER BEoCHHIMqIMpIMoDADqLoELIF",
  "YEZIDI LETTER ETpWpYNoFAoGAFoHAYpHAoJAoKAFpHAFoLAMr WITH DOT ABOVEoMIMoNUNoOWoPEpHEoQAFoRApHA",
  "YEZIDI LETTER SADpEpHINpINoTApHEoUMoVAq ALTERNATE FORMoWAWoXApHEYNoYOTr WITH CIRCUMFLEX ABOVE",
  "YEZIDI LETTER ZAqLpEbI RADICAL BBUTmURlCHEmIPmUOPmYnPnTlDDURmUlGAmEPmGOPnUOmOTlHMOmXITnOPnUO",
  "YI RADICAL JJIEnUTnYmOlKEmITlLInEmYRlMImOPlNBIEmYIPnOPmZUPlOPlPUTmYTlQOTlSHATnOPnURnYmSIlTATmU",
  "YI RADICAL VEPmURlWOlYITmOlZAmOTmUPnRmZIETdSYLLABLE AnPnTnXmBAoPoToXnBApPpTpXoEpPpXoIpEqPqTqXpP",
  "YI SYLLABLE BBITpXoOpPpTpXoUpOqPqXpPpRqXpTpXoYpPpTpXnEoPoXnIoEpPpTpXoPoToXnOoPoToXnUoOpPpXoPoR",
  "YI SYLLABLE BURXoToXnYoPoRpXoToXmCAoPoToXnEoPoXnHApPpTpXoEpPpTpXoOpPpTpXoUpOqPqTqXpPpRqXpXoYpP",
  "YI SYLLABLE CHYRqXpTpXnIoEpPpTpXoPoToXnOoPoToXnUoOpPpXoPoRpXoToXnYoPoRpXoToXmDAoPoToXnDApPpTpX",
  "YI SYLLABLE DDEpPpXoIpEqPqXpPpTpXoOpPpTpXoUpOqPqXpPpRqXpTpXnEoPoXnIoEpPpXoPoToXnOoPoToXnUoOpXoP",
  "YI SYLLABLE DURpXoToXmEnXmFAoPoToXnIoPoToXnOoPoXnUoPoRpXoToXnYoPoToXmGAoPoToXnEoPoToXnGApPpTpX",
  "YI SYLLABLE GGEpPpTpXoIpEqPqXpTpXoOpPpTpXoUpOqPqTqXpPpRqXpTpXnIoEpPpTpXoPoToXnOoPoToXnUoOpPpTpX",
  "YI SYLLABLE GUPoRpXoToXmHAoPoToXnEoPoXnIEpXoTnLApPpTpXoEpPpXoIpEqPqXpPpTpXoOpPpXoUpOqPqXpPpRqX",
  "YI SYLLABLE HLUTpXoYpPpRqXpTpXnMApPpTpXoIpEqPqXpPpTpXoOpPpTpXoUpOqPqXpPpRqXpTpXoYpPpRqXpXnNApP",
  "YI SYLLABLE HNATpXoEpPpXoIpEqPqTqXpPpTpXoOPpTpXoUOqXpTnOoPoToXnUOpPpTpXnXApPpTpXoEpPpXoIpEqPqT",
  "YI SYLLABLE HXIEXpPpTpXoOpPpTpXoUOqPqTqXmInEoPoToXnPnToERATION MARKnXmJIoEpPpTpXoPoToXnJIpEqPqT",
  "YI SYLLABLE JJIEXpPpTpXoOpPpTpXoUpOqPqXpPpRqXpTpXoYpPpTpXnOoPoToXnUoOpPpTpXoPoRpXoToXnYoPoRpXoT",
  "YI SYLLABLE JYXmKAoPoToXnEoPoToXnIoEpPpXoPoToXnOoPoToXnUoOpPpXoPoRpXoToXmLAoPoToXnEoPoXnIoEpPpT",
  "YI SYLLABLE LIEXoPoToXnOoPoToXnUoOpPpTpXoPoRpXoToXnYoPoRpXoToXmMAoPoToXnEoXnGApPpTpXoEpPpXoIEqX",
  "YI SYLLABLE MGOpPpTpXoUpOqPqXpPpRqXpTpXnIoEpPpXoPoToXnOoPoToXnUoOpPpTpXoPoRpXoToXnYoPoToXmNAoP",
  "YI SYLLABLE NAXnBApPpTpXoIpEqPqXpPpTpXoOpPpTpXoUpPpRqXpTpXoYpPpRqXpTpXnDApPpTpXoEpPpXoIpEqXpPpT",
  "YI SYLLABLE NDIXoOpPpTpXoUpPpRqXpTpXnEoPoXnGApPpTpXoEpPpXoIEqPqXoOpPpTpXoUOqTqXnIoEpPpXoPoToX",
  "YI SYLLABLE NJIpEqPqTqXpPpTpXoOpPpTpXoUpOqXpPpRqXpXoYpPpRqXpTpXnOoPoToXnRApPpTpXoEpPpTpXoOpPpX",
  "YI SYLLABLE NRUpPpRqXpTpXoYpPpRqXpTpXnUoOpPpXoPoRpXoToXnYIpEqPqTqXpPpTpXoOpPpTpXoUpOqPqXpPpTpX",
  "YI SYLLABLE NZApPpTpXoEpXoIpEqPqXpPpTpXoOPpXoUpOqXpPpRqXpXoYpPpRqXpTpXmOnPnTnXmPAoPoToXnIoEpPpX",
  "YI SYLLABLE PIPoToXnOoPoToXnUoOpPpXoPoRpXoToXnYoPoRpXoToXmQIoEpPpTpXoPoToXnOoPoToXnUoOpPpTpXoP",
  "YI SYLLABLE QURpXoToXnYoPoRpXoToXmRAoPoToXnEoPoXnOoPoToXnRApXoEpPpTpXoOpPpTpXoUpOqXpPpRqXpTpXoY",
  "YI SYLLABLE RRYPpRqXpTpXnUoOpPpXoPoRpXoToXnYoPoRpXoToXmSAoPoToXnEoPoXnHApPpTpXoEpPpTpXoOpPpTpX",
  "YI SYLLABLE SHUpOqPqXpPpRqXpTpXoYpPpRqXpTpXnIoEpPpXoPoToXnOoPoToXnSApPpTpXoEpPpXoIpEqPqXpPpTpX",
  "YI SYLLABLE SSOpPpTpXoUpPpTpXoYpPpRqXpTpXnUoOpPpXoPoRpXoToXnYoPoRpXoToXmTAoPoToXnEoPoXnIoEpPpX",
  "YI SYLLABLE TIPoToXnOoPoToXnUoOpPpTpXoPoRpXoToXmUOoPoXmVAoPoToXnEPoXnIoEpPpTpXoPoToXnOoPoToXnU",
  "YI SYLLABLE VUPoRpXoToXnYoPoRpXoToXmWAoPoToXnEoPoXnOoPoXnUoOpPpXmXIoEpPpTpXoPoToXnOoPoToXnUOpX",
  "YI SYLLABLE XYoPoRpXoToXmYIoEpPpTpXoPoToXnOoPoToXnUoOpPpTpXoPoRpXoToXnYoPoRpXoToXmZAoPoToXnEoP",
  "YI SYLLABLE ZEXnHApPpTpXoEpPpTpXoOpPpTpXoUpOqPqXpPpRqXpTpXoYpPpRqXpTpXnIoEpPpXoPoToXnOoPoToXnU",
  "YI SYLLABLE ZUOpPpXoPoRpXoToXnYoPoRpXoToXnZApPpTpXoEpPpXoIpEqPqTqXpPpTpXoOpPpXoUpPpRqXpXoYpPpR",
  "YI SYLLABLE ZZYRXpTpXcN YANGbO-YOaZ NOTATION BAG MEMBERSHIPlDOMAIN ANTIRESTRICTION",
  "Z NOTATION LEFT BINDING BRACKETqIMAGE BRACKETlRANGE ANTIRESTRICTIONmELATIONAL COMPOSITION",
  "Z NOTATION RIGHT BINDING BRACKETrIMAGE BRACKETlSCHEMA COMPOSITIONsPIPINGtROJECTIONmPOT",
  "Z NOTATION TYPE COLONbANABAZAR SQUARE CLOSING DOUBLE-LINED HEAD MARKzHEAD MARK",
  "ZANABAZAR SQUARE CLUSTER-FINAL LETTER LAznRAznVAznYAzINITIAL LETTER RArFINAL CONSONANT MARK",
  "ZANABAZAR SQUARE INITIAL DOUBLE-LINED HEAD MARKzHEAD MARKrLETTER -AyAyBAzHAyCAzHAyDAzDAzbHAzHA",
  "ZANABAZAR SQUARE LETTER DZAzbHAyGAzHAyHAyJAyKAzHAzSSAyLAyMAyNAzGAzNAzYAyPAzHAyRAySAzHAzSAyTAzHA",
  "ZANABAZAR SQUARE LETTER TSAzbHAzTAzbHAyVAyYAyZAzHArMARK DOUBLE SHADwLONG TSHEGwSHADwTSHEG",
  "ZANABAZAR SQUARE SIGN ANUSVARAwCANDRA WITH ORNAMENTzdBINDUzi WITH ORNAMENTwVIRAMAySARGA",
  "ZANABAZAR SQUARE SUBJOINERrVOWEL LENGTH MARKxSIGN AIzeUzdEzdIzdOzeEzdREVERSED IzdUzeEbEBRA FACE",
  "ZERO WIDTH JOINERlNO-BREAK SPACEnN-JOINERlSPACEcUSbIPPER-MOUTH FACE",
  "ZNAMENNY COMBINING ATTACHING VERTICAL OMETtLOWER TONAL RANGE INDICATORtMARK BORZAYAyCHASHKA",
  "ZNAMENNY COMBINING MARK CHASHKA POLNAYAzURVED OMETyDEMESTVENNY ZADERZHKAzVOETOCHIE",
  "ZNAMENNY COMBINING MARK GORAZDO NIZKO ON LEFTzqRIGHTznS KRYZHEM ON LEFTzzbRIGHTzhVYSOKOyKACHKA",
  "ZNAMENNY COMBINING MARK KRYZHze ON LEFTzUPNAYAyLOMKAyMALO POVYSHE ON LEFTzpRIGHT",
  "ZNAMENNY COMBINING MARK MALO POVYSHE S KHOKHLOM ON LEFTzzbRIGHTzpRYZHEMznTRANNOyNIZKO ON LEFT",
  "ZNAMENNY COMBINING MARK NIZKO ON RIGHTzfS KRYZHEM ON LEFTzsRIGHTyOBLACHKOzNzTSECHKAyPODCHASHIE",
  "ZNAMENNY COMBINING MARK PODCHASHIE WITH VERTICAL STROKEzcVERTKAzbVYSHE ON LEFTzkRIGHT",
  "ZNAMENNY COMBINING MARK POVYSHE S KHOKHLOM ON LEFTzvRIGHTzkRYZHEMziTRANNOyRAVNOzbZSEKAySKOBA",
  "ZNAMENNY COMBINING MARK SOROCHYA NOZHKAzREDNE ON LEFTzjRIGHTzTRANNO MALO POVYSHEyTIKHAYAzOCHKA",
  "ZNAMENNY COMBINING MARK TSATA ON LEFTziRIGHTzfS KRYZHEMyUDARKAyVYSOKO ON LEFTzjRIGHT",
  "ZNAMENNY COMBINING MARK VYSOKO S KHOKHLOM ON LEFTzuRIGHTzjRYZHEMyZADERZHKAzELOzbVOK",
  "ZNAMENNY COMBINING TONAL RANGE MARK MRACHNOzlSVETLOzlTRESVETLOjNEUME CHASHKArELYUSTKA",
  "ZNAMENNY NEUME DEMESTVENNY KLYUCHrRBITSAqOUBLE ZAPYATAYAqUDAqVA V CHELNUpFITApGOLUBCHIK BORZY",
  "ZNAMENNY NEUME GOLUBCHIK MRACHNYzSVETLYzTIKHYzbRESVETLYpKHAMILOqLYUCHqOBYLAqRYUKu TIKHYsZH",
  "ZNAMENNY NEUME KUFISMApMECHIKv KLYUCHENEPOSTOYANNYzePOVODNYzeVOYwPOVODNYpNEMKApOBLAKOqSOKA",
  "ZNAMENNY NEUME OSOKA KLYUCHEVAYA NEPOSTOYANNAYAziSVETLAYAwRYUKOVAYA SVETLAYAvSVETLAYA",
  "ZNAMENNY NEUME OSOKA TRESVETLAYApPALKArRAKLITrUKqEREVODKAy NEPOSTOYANNAYAqODCHASHIErLKULIZMY",
  "ZNAMENNY NEUME REVERSED CHELYUSTKAqOGpSKAMEYTSA DVOECHELNAYA KLYUCHEVAYAznNEPOSTOYANNAYA",
  "ZNAMENNY NEUME SKAMEYTSA DVOECHELNAYA PROSTAYAznSVETLAYAzKLYUCHENEPOSTOYANNAYAzhVAYA SVETLAYA",
  "ZNAMENNY NEUME SKAMEYTSA KLYUCHEVAYA TIKHAYAzMRACHNAYAzSVETLAYAzTIKHAYAzbRESVETLAYAqLOZHITIE",
  "ZNAMENNY NEUME SLOZHITIE S KRYZHEMzcZAPYATOYzZAKRYTOEqTATYAv NEPOSTOYANNAYAwS DVUMYA ZAPYATYMI",
  "ZNAMENNY NEUME STATYA S KRYZHEMzg I ZAPYATOYyROGOMyZAPYATOYzh I KRYZHEMzkPODCHASHIEMwZAKRYTAYA",
  "ZNAMENNY NEUME STATYA ZAKRYTAYA S ZAPYATOYrOPITSAx S OCHKOMyWITH SOROCHYA NOZHKA",
  "ZNAMENNY NEUME STRELA DVOECHELNAYAzj KLYUCHEVAYAzgOKRYZHEVAYAzhPOVODNAYAzq KLYUCHEVAYAwGROMNAYA",
  "ZNAMENNY NEUME STRELA GROMNAYA WITH SINGLE ZAPYATAYAzbOKRYZHEVAYAzm POVODNAYAzcPOVODNAYA",
  "ZNAMENNY NEUME STRELA GROMOPOVODNAYA WITH DOUBLE ZAPYATAYAzrSINGLE ZAPYATAYA",
  "ZNAMENNY NEUME STRELA KLYUCHENEPOSTOYANNAYAzePOVODNAYAxRYUKOVAYAzh GROMNAYA",
  "ZNAMENNY NEUME STRELA KRYUKOVAYA GROMNAYA WITH SINGLE ZAPYATAYAzmOKRYZHEVAYAzx POVODNAYA",
  "ZNAMENNY NEUME STRELA KRYUKOVAYA GROMOPOVODNAYAzw WITH DOUBLE ZAPYATAYAzzdSINGLE ZAPYATAYA",
  "ZNAMENNY NEUME STRELA KRYUKOVAYA POVODNAYAziTRYASKAzZHEVAYAwMRACHNOTIKHAYAwNEPOSTOYANNAYA",
  "ZNAMENNY NEUME STRELA POLUPOVODNAYAyVODNAYAxROSTAYAwTIKHAYA PUTNAYAxRYASOGLASNAYAzdPOVODNAYA",
  "ZNAMENNY NEUME STRELA TRYASOSTRELNAYApVRAKHIYA KLYUCHEVAYA MRACHNAYAzlPROSTAYAzlSVETLAYA",
  "ZNAMENNY NEUME VRAKHIYA KLYUCHEVAYA TRESVETLAYAyMRACHNAYAyPROSTAYAySVETLAYAyTRESVETLAYA",
  "ZNAMENNY NEUME ZANOZHEKrPYATAYAqMEYTSAjPRIZNAK MODIFIER DIRECTION FLIPzbKRYZHzbLEVEL-2zh3zbROG",
  "ZOMBIEbWJcNBSPdJcSP"]

end Depot.Text
